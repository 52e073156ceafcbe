import TrainingLab.Device.GuiEdit
import TrainingLab.Proofs.Device.Reply
import TrainingLab.Proofs.Device.Staging

/-
  What operations print, whatever was printed before. A text goes to the history line by line, so
  no entry that it adds has a line feed. An operation that does not look at the history adds the
  same entries behind any history: with an earlier history in front it does the same, and has that
  history in front afterwards. `Answers f` says both of an operation.
-/

namespace TrainingLab.Device

/-! ## Entries -/

/-- No entry has a line feed. -/
def SingleLines (entries : List String) : Prop := ∀ entry ∈ entries, '\n' ∉ entry.toList

theorem SingleLines.append {entries more : List String} (h : SingleLines entries)
    (hmore : SingleLines more) : SingleLines (entries ++ more) := by
  intro entry hentry
  rcases List.mem_append.mp hentry with hmem | hmem
  · exact h entry hmem
  · exact hmore entry hmem

/-- A text is logged in lines. -/
theorem singleLines_logLines (text : String) : SingleLines (logLines text) := by
  intro entry hentry
  unfold logLines at hentry
  split at hentry
  next =>
    rw [List.mem_singleton.mp hentry]
    decide
  next => exact Text.feed_not_mem_lines hentry

theorem singleLines_flatMap (texts : List String) : SingleLines (texts.flatMap logLines) := by
  intro entry hentry
  obtain ⟨text, _, hlines⟩ := List.mem_flatMap.mp hentry
  exact singleLines_logLines text entry hlines

/-- Every text is logged, an empty one as an empty entry. -/
theorem logLines_ne_nil (text : String) : logLines text ≠ [] := by
  unfold logLines
  split
  next => exact List.cons_ne_nil _ _
  next hempty => exact Text.lines_ne_nil (by simpa using hempty)

/-! ## An earlier history -/

/-- The device with more history before its own. -/
def prepend (earlier : List String) (d : Device) : Device :=
  { d with history := earlier ++ d.history }

theorem prepend_forget (d : Device) : d.forget.prepend d.history = d := by
  rw [prepend, forget, List.append_nil]

@[simp] theorem forget_prepend (earlier : List String) (d : Device) :
    (d.prepend earlier).forget = d.forget := rfl

@[simp] theorem mode_prepend (earlier : List String) (d : Device) :
    (d.prepend earlier).mode = d.mode := rfl

@[simp] theorem frameName?_prepend (earlier : List String) (d : Device) (kind : FrameKind) :
    (d.prepend earlier).frameName? kind = d.frameName? kind := rfl

@[simp] theorem routes_prepend (earlier : List String) (d : Device) :
    (d.prepend earlier).routes = d.routes := rfl

@[simp] theorem policies_prepend (earlier : List String) (d : Device) :
    (d.prepend earlier).policies = d.policies := rfl

theorem log_prepend (earlier : List String) (d : Device) (text : String) :
    (d.prepend earlier).log text = (d.log text).prepend earlier := by
  simp only [log, prepend, List.append_assoc]

theorem logAll_prepend (earlier : List String) (d : Device) (texts : List String) :
    (d.prepend earlier).logAll texts = (d.logAll texts).prepend earlier := by
  simp only [logAll_eq, prepend, List.append_assoc]

/-! ## Answers -/

/-- The step adds single lines to the history. -/
def Prints (d after : Device) : Prop :=
  ∃ entries, after.history = d.history ++ entries ∧ SingleLines entries

namespace Prints

variable {d after last : Device}

theorem silent (h : after.history = d.history) : Prints d after :=
  ⟨[], by rw [h, List.append_nil], List.forall_mem_nil _⟩

theorem logged (d : Device) (text : String) : Prints d (d.log text) :=
  ⟨logLines text, rfl, singleLines_logLines text⟩

theorem printed (d : Device) (texts : List String) : Prints d (d.logAll texts) :=
  ⟨texts.flatMap logLines, history_logAll d texts, singleLines_flatMap texts⟩

theorem trans (h : Prints d after) (h' : Prints after last) : Prints d last := by
  obtain ⟨entries, hentries, hlines⟩ := h
  obtain ⟨more, hmore, hmoreLines⟩ := h'
  refine ⟨entries ++ more, ?_, hlines.append hmoreLines⟩
  rw [hmore, hentries, List.append_assoc]

end Prints

/-- The step adds single lines to the history, and with an earlier history it leads to the second
    device, which has that history in front and is the same otherwise. -/
structure Answered (earlier : List String) (d after other : Device) : Prop where
  prints : Prints d after
  blind : other = after.prepend earlier

namespace Answered

variable {earlier : List String} {d after other last : Device}

theorem silent (h : after.history = d.history) (hblind : other = after.prepend earlier) :
    Answered earlier d after other :=
  ⟨.silent h, hblind⟩

theorem logged (earlier : List String) (d : Device) (text : String) :
    Answered earlier d (d.log text) ((d.prepend earlier).log text) :=
  ⟨.logged d text, log_prepend earlier d text⟩

theorem printed (earlier : List String) (d : Device) (texts : List String) :
    Answered earlier d (d.logAll texts) ((d.prepend earlier).logAll texts) :=
  ⟨.printed d texts, logAll_prepend earlier d texts⟩

end Answered

/-- The operation adds single lines to the history, and does not look at what is there. -/
def Answers (f : Device → Device) : Prop :=
  ∀ earlier d, Answered earlier d (f d) (f (d.prepend earlier))

namespace Answers

variable {f g : Device → Device}

theorem silent (h : ∀ d, (f d).history = d.history)
    (hblind : ∀ earlier d, f (d.prepend earlier) = (f d).prepend earlier) : Answers f :=
  fun earlier d => .silent (h d) (hblind earlier d)

theorem logged (text : String) : Answers fun d => d.log text := fun earlier d =>
  .logged earlier d text

theorem printed {texts : Device → List String}
    (h : ∀ earlier d, texts (d.prepend earlier) = texts d) :
    Answers fun d => d.logAll (texts d) := by
  intro earlier d
  dsimp only
  rw [h earlier d]
  exact .printed earlier d (texts d)

/-- A choice by something else than the history. -/
theorem choice {p : Device → Prop} [DecidablePred p]
    (hp : ∀ earlier d, p (d.prepend earlier) ↔ p d) (hf : Answers f) (hg : Answers g) :
    Answers fun d => if p d then f d else g d := by
  intro earlier d
  dsimp only
  by_cases h : p d
  · rw [if_pos h, if_pos ((hp earlier d).mpr h)]
    exact hf earlier d
  · rw [if_neg h, if_neg fun h' => h ((hp earlier d).mp h')]
    exact hg earlier d

theorem comp (hg : Answers g) (hf : Answers f) : Answers fun d => g (f d) := by
  intro earlier d
  have hfirst := hf earlier d
  have hnext := hg earlier (f d)
  refine ⟨hfirst.prints.trans hnext.prints, ?_⟩
  dsimp only
  rw [hfirst.blind, hnext.blind]

/-- An operation that does not look at the history adds what it adds without one. -/
theorem history (h : Answers f) (d : Device) :
    (f d).history = d.history ++ (f d.forget).history := by
  have hblind := (h d.history d.forget).blind
  rw [prepend_forget] at hblind
  rw [hblind]
  rfl

end Answers

/-! ## Edits -/

theorem answers_commit : Answers fun d => d.commit.1 := by
  intro earlier d
  simp only [commit_eq]
  exact .silent rfl rfl

theorem history_commit (d : Device) : d.commit.1.history = d.history := by
  rw [commit_eq]

/-- Every edit is reported. -/
theorem reported_applyEdit (d : Device) (e : GuiEdit) :
    ∃ entries, entries ≠ [] ∧ (d.applyEdit e).history = d.history ++ entries := by
  have hreport : ∀ {after : Device} (text : String), after.history = d.history →
      ∃ entries, entries ≠ [] ∧ (after.log text).history = d.history ++ entries := by
    intro after text hafter
    refine ⟨logLines text, logLines_ne_nil text, ?_⟩
    rw [log, hafter]
  cases e with
  | interface name e =>
    simp only [applyEdit, applyInterfaceEdit]
    split
    next => exact hreport _ rfl
    next =>
      refine hreport _ ?_
      split
      · rfl
      · rfl
  | commit => exact hreport _ (history_commit d)

end TrainingLab.Device
