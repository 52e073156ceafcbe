import TrainingLab.Proofs.Device.Views
import TrainingLab.Proofs.Text.Words

/-
  What a step adds to the history, and what it may do besides. Some texts are rejections; a step is
  atomic if it does not both print one of them and change something (`Atomic`). A step that prints
  no rejection is atomic whatever it does (`Accepts`), and so is one that only prints.
-/

namespace TrainingLab.Device

/-- The step adds lines to the history, and no rejection among them. -/
def Accepts (rejection : String → Prop) (d d' : Device) : Prop :=
  ∃ replies, d'.history = d.history ++ replies ∧ ∀ text ∈ replies, ¬ rejection text

/-- The step adds lines to the history; if there is a rejection among them, it does nothing else. -/
def Atomic (rejection : String → Prop) (d d' : Device) : Prop :=
  ∃ replies, d'.history = d.history ++ replies ∧
    ((∃ text ∈ replies, rejection text) → d'.forget = d.forget)

variable {rejection : String → Prop} {d d' d'' : Device}

theorem history_logAll (d : Device) (texts : List String) :
    (d.logAll texts).history = d.history ++ texts.flatMap logLines := by
  rw [logAll_eq]

/-- A text without a line feed is logged as one line. -/
theorem logLines_of_no_feed {text : String} (h : '\n' ∉ text.toList) :
    logLines text = [text] := by
  unfold logLines
  cases he : text.isEmpty with
  | true => simp [String.isEmpty_iff.mp he]
  | false => simp [Text.lines_of_no_feed h, he]

/-- Texts without line feeds are logged as they are. -/
theorem flatMap_logLines {texts : List String} (h : ∀ text ∈ texts, '\n' ∉ text.toList) :
    texts.flatMap logLines = texts := by
  induction texts with
  | nil => rfl
  | cons text texts ih =>
    obtain ⟨htext, htexts⟩ := List.forall_mem_cons.mp h
    rw [List.flatMap_cons, logLines_of_no_feed htext, ih htexts, List.singleton_append]

namespace Accepts

/-- A step that prints nothing. -/
theorem silent (h : d'.history = d.history) : Accepts rejection d d' :=
  ⟨[], by rw [h, List.append_nil], List.forall_mem_nil _⟩

/-- A step that prints one line, whatever it does besides. -/
theorem noted {text : String} (hline : '\n' ∉ text.toList) (hgood : ¬ rejection text)
    (h : d'.history = (d.log text).history) : Accepts rejection d d' := by
  refine ⟨[text], ?_, by simpa using hgood⟩
  rw [h, ← logLines_of_no_feed hline]
  rfl

theorem trans (h : Accepts rejection d d') (h' : Accepts rejection d' d'') :
    Accepts rejection d d'' := by
  obtain ⟨replies, hreplies, hgood⟩ := h
  obtain ⟨replies', hreplies', hgood'⟩ := h'
  refine ⟨replies ++ replies', by rw [hreplies', hreplies, List.append_assoc], fun text htext => ?_⟩
  exact (List.mem_append.mp htext).elim (hgood text) (hgood' text)

theorem atomic (h : Accepts rejection d d') : Atomic rejection d d' := by
  obtain ⟨replies, hreplies, hgood⟩ := h
  exact ⟨replies, hreplies, fun ⟨text, htext, hbad⟩ => absurd hbad (hgood text htext)⟩

end Accepts

namespace Atomic

theorem unchanged (d : Device) : Atomic rejection d d :=
  ⟨[], (List.append_nil _).symm, fun _ => rfl⟩

/-- A step that prints nothing. -/
theorem silent (h : d'.history = d.history) : Atomic rejection d d' := (Accepts.silent h).atomic

/-- A step that does nothing but print. -/
theorem printed (d : Device) (texts : List String) : Atomic rejection d (d.logAll texts) :=
  ⟨texts.flatMap logLines, history_logAll d texts, fun _ => forget_logAll d texts⟩

theorem logged (d : Device) (text : String) : Atomic rejection d (d.log text) :=
  ⟨logLines text, rfl, fun _ => rfl⟩

end Atomic

end TrainingLab.Device
