import TrainingLab.Device.Basic

/-
  Views of a device that leave parts of it out, and what printing and moving about on the console
  do to them. Texts only ever go to the history (`logAll_eq`), so every view without the history is
  blind to them.
-/

namespace TrainingLab.Device

/-- The device without its history. -/
def forget (d : Device) : Device := { d with history := [] }

/-- The device without its console: its history, its mode and the objects being edited. -/
def config (d : Device) : Device := { d with mode := .user, context := [], history := [] }

/-- What makes up the device itself, apart from its configuration. -/
def identity (d : Device) : DeviceId × DeviceClass × Vendor := (d.id, d.kind, d.vendor)

/-! ## Printing -/

theorem logAll_eq (d : Device) (texts : List String) :
    d.logAll texts = { d with history := d.history ++ texts.flatMap logLines } := by
  induction texts generalizing d with
  | nil => simp [logAll]
  | cons text texts ih =>
    have hstep : d.logAll (text :: texts) = (d.log text).logAll texts := rfl
    rw [hstep, ih, List.flatMap_cons, ← List.append_assoc]
    rfl

@[simp] theorem forget_log (d : Device) (text : String) : (d.log text).forget = d.forget := rfl

@[simp] theorem forget_logAll (d : Device) (texts : List String) :
    (d.logAll texts).forget = d.forget := by
  rw [logAll_eq]
  rfl

@[simp] theorem config_log (d : Device) (text : String) : (d.log text).config = d.config := rfl

@[simp] theorem config_logAll (d : Device) (texts : List String) :
    (d.logAll texts).config = d.config := by
  rw [logAll_eq]
  rfl

@[simp] theorem mode_log (d : Device) (text : String) : (d.log text).mode = d.mode := rfl

@[simp] theorem mode_logAll (d : Device) (texts : List String) :
    (d.logAll texts).mode = d.mode := by
  rw [logAll_eq]

@[simp] theorem identity_logAll (d : Device) (texts : List String) :
    (d.logAll texts).identity = d.identity := by
  rw [logAll_eq]
  rfl

/-! ## Moving about -/

@[simp] theorem config_enter (d : Device) (mode : Mode) : (d.enter mode).config = d.config := rfl

@[simp] theorem config_within (d : Device) (context : List Frame) :
    (d.within context).config = d.config := rfl

@[simp] theorem config_push (d : Device) (kind : FrameKind) (name : String) :
    (d.push kind name).config = d.config := rfl

@[simp] theorem config_pop (d : Device) : d.pop.config = d.config := rfl

/-- The innermost object is found by its kind. -/
theorem frameName?_of_cons {d : Device} {f : Frame} {rest : List Frame}
    (h : d.context = f :: rest) : d.frameName? f.kind = some f.name := by
  simp only [frameName?, h, List.find?_cons, beq_self_eq_true, Option.map_some]

/-! ## Reading through a view -/

@[simp] theorem forget_forget (d : Device) : d.forget.forget = d.forget := rfl

/-- What does not look at the console is the same if only the console differs. -/
theorem eq_of_config {α : Type} (f : Device → α) (hf : ∀ d, f d.config = f d) {d e : Device}
    (h : d.config = e.config) : f d = f e := by
  rw [← hf d, h, hf e]

/-- What does not look at the history is the same if only the history differs. -/
theorem eq_of_forget {α : Type} (f : Device → α) (hf : ∀ d, f d.forget = f d) {d e : Device}
    (h : d.forget = e.forget) : f d = f e := by
  rw [← hf d, h, hf e]

theorem config_eq_of_forget {d e : Device} (h : d.forget = e.forget) : d.config = e.config :=
  eq_of_forget config (fun _ => rfl) h

/-- Without the histories there is the configuration, the mode and the edited objects. -/
theorem forget_eq_of_config {d e : Device} (h : d.config = e.config) (hmode : d.mode = e.mode)
    (hcontext : d.context = e.context) : d.forget = e.forget := by
  have hd : d.forget = (d.config.enter d.mode).within d.context := rfl
  have he : e.forget = (e.config.enter e.mode).within e.context := rfl
  rw [hd, he, h, hmode, hcontext]

theorem identity_eq_iff {d e : Device} :
    d.identity = e.identity ↔ d.id = e.id ∧ d.kind = e.kind ∧ d.vendor = e.vendor := by
  unfold identity
  rw [Prod.mk.injEq, Prod.mk.injEq]

theorem family_eq_of_identity {d e : Device} (h : d.identity = e.identity) :
    d.family = e.family :=
  congrArg (fun i : DeviceId × DeviceClass × Vendor => i.2.2.family) h

end TrainingLab.Device
