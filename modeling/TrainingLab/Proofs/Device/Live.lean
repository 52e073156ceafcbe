import TrainingLab.Device.GuiEdit
import TrainingLab.Proofs.Device.Staging
import TrainingLab.Proofs.Device.Views

/-
  Steps that leave alone what is live, and steps that make the staged view live. Everything that a
  console with commits does is one or the other; both keep the policies and the VLANs, and the
  candidate disjoint.

  Whether anything is pending depends on the configuration alone (`hasPendingChanges_eq`), not on
  the console.
-/

namespace TrainingLab.Device

/-- What is live is the same before and after. -/
structure KeepsLive (d d' : Device) : Prop where
  live : d'.liveView = d.liveView
  policies : d'.policies = d.policies
  vlans : d'.vlans = d.vlans
  disjoint : d.CandidateDisjoint → d'.CandidateDisjoint

/-- What is live afterwards is what was staged before. -/
structure MakesLive (d d' : Device) : Prop where
  live : d'.liveView = d.stagedView
  policies : d'.policies = d.policies
  vlans : d'.vlans = d.vlans
  disjoint : d'.CandidateDisjoint

namespace KeepsLive

theorem refl (d : Device) : KeepsLive d d := ⟨rfl, rfl, rfl, fun h => h⟩

theorem trans {d d' d'' : Device} (h : KeepsLive d d') (h' : KeepsLive d' d'') :
    KeepsLive d d'' where
  live := h'.live.trans h.live
  policies := h'.policies.trans h.policies
  vlans := h'.vlans.trans h.vlans
  disjoint := fun hd => h'.disjoint (h.disjoint hd)

/-- A step that touches the console alone. -/
theorem of_config {d d' : Device} (h : d'.config = d.config) : KeepsLive d d' where
  live := eq_of_config liveView (fun _ => rfl) h
  policies := eq_of_config Device.policies (fun _ => rfl) h
  vlans := eq_of_config Device.vlans (fun _ => rfl) h
  disjoint := fun hd c hc => hd c ((eq_of_config Device.candidate (fun _ => rfl) h).symm.trans hc)

/-- A step that stages a change. -/
theorem of_stage (d : Device) (c : Change) : KeepsLive d (d.stage c) where
  live := liveView_stage d c
  policies := by cases c <;> rfl
  vlans := by cases c <;> rfl
  disjoint := fun hd => candidateDisjoint_stage hd c

/-- A step that drops what is staged. -/
theorem of_discard (d : Device) : KeepsLive d d.discard :=
  ⟨rfl, rfl, rfl, fun _ => candidateDisjoint_of_none rfl⟩

theorem log {d d' : Device} (h : KeepsLive d d') (text : String) : KeepsLive d (d'.log text) :=
  h.trans (of_config (config_log d' text))

end KeepsLive

namespace MakesLive

theorem of_commit (d : Device) : MakesLive d d.commit.1 where
  live := liveView_commit d
  policies := by rw [commit_eq]
  vlans := by rw [commit_eq]
  disjoint := candidateDisjoint_of_none (candidate_commit d)

/-- What comes after a commit may not undo it. -/
theorem trans {d d' d'' : Device} (h : MakesLive d d') (h' : KeepsLive d' d'') :
    MakesLive d d'' where
  live := h'.live.trans h.live
  policies := h'.policies.trans h.policies
  vlans := h'.vlans.trans h.vlans
  disjoint := h'.disjoint h.disjoint

theorem log {d d' : Device} (h : MakesLive d d') (text : String) : MakesLive d (d'.log text) :=
  h.trans ((KeepsLive.refl d').log text)

/-- The console in front of a commit does not matter. -/
theorem of_config_left {d d' d'' : Device} (h : d'.config = d.config) (h' : MakesLive d' d'') :
    MakesLive d d'' where
  live := h'.live.trans (eq_of_config stagedView (fun _ => rfl) h)
  policies := h'.policies.trans (eq_of_config Device.policies (fun _ => rfl) h)
  vlans := h'.vlans.trans (eq_of_config Device.vlans (fun _ => rfl) h)
  disjoint := h'.disjoint

end MakesLive

/-! ## Edits -/

/-- Where edits are staged, an edit of an interface leaves alone what is live. -/
theorem keepsLive_applyInterfaceEdit {d : Device} (h : d.stagesEdits = true) (name : String)
    (e : InterfaceEdit) : KeepsLive d (d.applyInterfaceEdit name e) := by
  unfold applyInterfaceEdit
  cases d.editedInterface? name with
  | none => exact (KeepsLive.refl d).log _
  | some i =>
    rw [if_pos h]
    exact (KeepsLive.of_stage d (.interface name e.apply)).log _

theorem makesLive_applyEdit_commit (d : Device) : MakesLive d (d.applyEdit .commit) :=
  (MakesLive.of_commit d).log _

/-! ## Pending changes -/

@[simp] theorem config_discard (d : Device) : d.discard.config = d.config.discard := rfl

/-- Whether anything is pending depends on the configuration alone. -/
theorem hasPendingChanges_eq {d d' : Device} (h : d'.config = d.config) :
    d'.hasPendingChanges = d.hasPendingChanges :=
  eq_of_config hasPendingChanges (fun _ => rfl) h

theorem hasPendingChanges_discard (d : Device) : d.discard.hasPendingChanges = false := rfl

end TrainingLab.Device
