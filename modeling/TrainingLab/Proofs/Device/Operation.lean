import TrainingLab.Proofs.Device.Effect
import TrainingLab.Proofs.Device.Printing

/-
  What the operations of all consoles have in common. An orderly operation adds single lines to the
  history and looks at none of it, leaves the device the one that it is, and is atomic: if it prints
  a rejection, it does nothing else (`Orderly`). Operations that print no rejection can be carried
  out one after the other (`Accepting`); for orderly ones that need not hold, the second may turn
  down what the first has changed.

  Each operation of a dialect is shown to be orderly, once. That it does the same whatever the
  history, that its answer is that of a device without one, and that its rejections are atomic
  follows from that.
-/

namespace TrainingLab.Device

variable {rejection : String → Prop} {f g : Device → Device}

/-- The step answers, with an earlier history as without it. The device stays the one that it is,
    and if there is a rejection in the answer, nothing else happens to it. -/
structure OrderlyStep (rejection : String → Prop) (earlier : List String)
    (d after other : Device) : Prop extends Answered earlier d after other where
  identity : after.identity = d.identity
  atomic : Atomic rejection d after

namespace OrderlyStep

variable {earlier : List String} {d after other : Device}

/-- A step that prints nothing. -/
theorem silent (h : after.history = d.history) (hblind : other = after.prepend earlier)
    (hidentity : after.identity = d.identity) : OrderlyStep rejection earlier d after other :=
  ⟨.silent h hblind, hidentity, .silent h⟩

theorem logged (earlier : List String) (d : Device) (text : String) :
    OrderlyStep rejection earlier d (d.log text) ((d.prepend earlier).log text) :=
  ⟨.logged earlier d text, rfl, .logged d text⟩

end OrderlyStep

/-- Every step of the operation is orderly. -/
def Orderly (rejection : String → Prop) (f : Device → Device) : Prop :=
  ∀ earlier d, OrderlyStep rejection earlier d (f d) (f (d.prepend earlier))

namespace Orderly

theorem answers (h : Orderly rejection f) : Answers f :=
  fun earlier d => (h earlier d).toAnswered

theorem atomic (h : Orderly rejection f) (d : Device) : Atomic rejection d (f d) :=
  (h [] d).atomic

/-- With the history in front of a device without one, there is the device itself. -/
theorem sameEffect (h : Orderly rejection f) : SameEffect f f := by
  intro d
  have hblind : f (d.forget.prepend d.history) = (f d.forget).prepend d.history :=
    (h d.history d.forget).blind
  rw [prepend_forget] at hblind
  refine ⟨?_, (h [] d).identity⟩
  rw [hblind, forget_prepend]

theorem logged (text : String) : Orderly rejection fun d => d.log text :=
  fun earlier d => .logged earlier d text

/-- An operation that does nothing but print, and not the history. -/
theorem printed {texts : Device → List String}
    (h : ∀ earlier d, texts (d.prepend earlier) = texts d) :
    Orderly rejection fun d => d.logAll (texts d) :=
  fun earlier d => ⟨Answers.printed h earlier d, identity_logAll d _, .printed d _⟩

/-- A choice by something else than the history. -/
theorem choice {p : Device → Prop} [DecidablePred p]
    (hp : ∀ earlier d, p (d.prepend earlier) ↔ p d) (hf : Orderly rejection f)
    (hg : Orderly rejection g) : Orderly rejection fun d => if p d then f d else g d := by
  intro earlier d
  dsimp only
  by_cases h : p d
  · rw [if_pos h, if_pos ((hp earlier d).mpr h)]
    exact hf earlier d
  · rw [if_neg h, if_neg fun h' => h ((hp earlier d).mp h')]
    exact hg earlier d

end Orderly

/-- The operation is orderly, and it prints no rejection. -/
structure Accepting (rejection : String → Prop) (f : Device → Device) : Prop where
  answers : Answers f
  identity : ∀ d, (f d).identity = d.identity
  accepts : ∀ d, Accepts rejection d (f d)

namespace Accepting

theorem orderly (h : Accepting rejection f) : Orderly rejection f :=
  fun earlier d => ⟨h.answers earlier d, h.identity d, (h.accepts d).atomic⟩

/-- An operation that prints nothing. -/
theorem silent (h : ∀ earlier d, (f d).history = d.history ∧
    f (d.prepend earlier) = (f d).prepend earlier ∧ (f d).identity = d.identity) :
    Accepting rejection f where
  answers := .silent (fun d => (h [] d).1) fun earlier d => (h earlier d).2.1
  identity d := (h [] d).2.2
  accepts d := .silent (h [] d).1

/-- One line that is no rejection. -/
theorem noted {text : String} (hline : '\n' ∉ text.toList) (hgood : ¬ rejection text) :
    Accepting rejection fun d => d.log text where
  answers := .logged text
  identity _ := rfl
  accepts _ := .noted hline hgood rfl

/-- A choice by something else than the history. -/
theorem choice {p : Device → Prop} [DecidablePred p]
    (hp : ∀ earlier d, p (d.prepend earlier) ↔ p d) (hf : Accepting rejection f)
    (hg : Accepting rejection g) : Accepting rejection fun d => if p d then f d else g d where
  answers := hf.answers.choice hp hg.answers
  identity d := by
    split
    · exact hf.identity d
    · exact hg.identity d
  accepts d := by
    split
    · exact hf.accepts d
    · exact hg.accepts d

/-- One operation after another. -/
theorem comp (hg : Accepting rejection g) (hf : Accepting rejection f) :
    Accepting rejection fun d => g (f d) where
  answers := hg.answers.comp hf.answers
  identity d := (hg.identity (f d)).trans (hf.identity d)
  accepts d := (hf.accepts d).trans (hg.accepts (f d))

end Accepting

/-- An operation that prints nothing. -/
theorem Orderly.silent (h : ∀ earlier d, (f d).history = d.history ∧
    f (d.prepend earlier) = (f d).prepend earlier ∧ (f d).identity = d.identity) :
    Orderly rejection f := (Accepting.silent h).orderly

/-- A commit prints nothing. -/
theorem accepting_commit : Accepting rejection fun d => d.commit.1 where
  answers := answers_commit
  identity d := (sameEffect_commit d).2
  accepts d := .silent (history_commit d)

end TrainingLab.Device
