import TrainingLab.Device.GuiEdit
import TrainingLab.Proofs.Device.Staging
import TrainingLab.Proofs.Device.Views

/-
  Operations that look at the history of a device, or at the other devices of its lab, only to
  print. `SameEffect f g` says so of one operation in two surroundings: apart from the history, `f`
  makes of a device what `g` makes of it without its history, and the device stays the one it is.
-/

namespace TrainingLab.Device

/-- The two operations do the same, apart from the history, and neither needs it. -/
def SameEffect (f g : Device → Device) : Prop :=
  ∀ d, (f d).forget = (g d.forget).forget ∧ (f d).identity = d.identity

namespace SameEffect

/-- Operations that only print. -/
theorem of_forget {f g : Device → Device} (hf : ∀ d, (f d).forget = d.forget)
    (hg : ∀ d, (g d).forget = d.forget) : SameEffect f g := by
  intro d
  refine ⟨?_, eq_of_forget identity (fun _ => rfl) (hf d)⟩
  rw [hf, hg, forget_forget]

theorem logged (text : String) : SameEffect (fun d => d.log text) (fun d => d.log text) :=
  fun _ => ⟨rfl, rfl⟩

/-- Devices that differ in their histories alone go on to differ in these alone. -/
theorem congr {f g : Device → Device} (h : SameEffect f g) (hg : SameEffect g g) {d e : Device}
    (hde : d.forget = e.forget) : (f d).forget = (g e).forget := by
  rw [(h d).1, (hg e).1, hde]

theorem comp {f f' g g' : Device → Device} (hg : SameEffect g g') (hg' : SameEffect g' g')
    (hf : SameEffect f f') : SameEffect (fun d => g (f d)) (fun d => g' (f' d)) := by
  intro d
  have hfirst : (f d).forget = (f' d.forget).forget := (hf d).1
  exact ⟨hg.congr hg' hfirst, (hg (f d)).2.trans (hf d).2⟩

end SameEffect

/-! ## Reading without the history -/

@[simp] theorem mode_forget (d : Device) : d.forget.mode = d.mode := rfl

/-! ## Edits -/

theorem sameEffect_commit : SameEffect (fun d => d.commit.1) (fun d => d.commit.1) := by
  intro d
  simp only [commit_eq]
  exact ⟨rfl, rfl⟩

theorem sameEffect_applyInterfaceEdit (name : String) (e : InterfaceEdit) :
    SameEffect (fun d => d.applyInterfaceEdit name e) (fun d => d.applyInterfaceEdit name e) := by
  intro d
  have hedited : d.forget.editedInterface? name = d.editedInterface? name := rfl
  have hstages : d.forget.stagesEdits = d.stagesEdits := rfl
  simp only [applyInterfaceEdit, hedited, hstages]
  cases d.editedInterface? name with
  | none => exact ⟨rfl, rfl⟩
  | some i =>
    by_cases h : d.stagesEdits = true <;> simp only [h, if_true]
    · exact ⟨rfl, rfl⟩
    · exact ⟨rfl, rfl⟩

/-- An edit does the same whatever the history. -/
theorem sameEffect_applyEdit (e : GuiEdit) :
    SameEffect (fun d => d.applyEdit e) (fun d => d.applyEdit e) := by
  cases e with
  | interface name e => exact sameEffect_applyInterfaceEdit name e
  | commit => exact sameEffect_commit

end TrainingLab.Device
