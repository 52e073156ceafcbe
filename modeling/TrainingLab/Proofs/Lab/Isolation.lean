import TrainingLab.Lab.Operations
import TrainingLab.Proofs.Dialect.Console
import TrainingLab.Proofs.Lab.Definition

/-
  The devices of a lab do not interfere. A line or an edit that is sent to one device changes that
  device alone, and what it makes of it, apart from the history, depends on nothing else.

  Proved:
  * `perform_of_some`, `perform_of_none`: an operation puts one new device in the place of the old
    one, or fails for an unknown id.
  * `keyed_run`: every device stands under its own id.
  * `run_eq_run_filter`: of a run, a device takes note of its own operations only.
  * `devices_isolated`: both, for every lab that a definition makes and every run.
-/

namespace TrainingLab

open Device

/-- An action and the device it is sent to. -/
structure Operation where
  device : DeviceId
  action : Action
deriving DecidableEq

/-- Every device stands under its own id. -/
def Inventory.Keyed (m : Inventory) : Prop := ∀ id d, m.find? id = some d → d.id = id

namespace Lab

/-- Carries out an operation, if the lab has the device. -/
def perform (l : Lab) (o : Operation) : Except LabError Lab :=
  match o.action with
  | .line text => l.execute o.device text
  | .edit e => l.applyEdit o.device e

/-- The lab after an operation; one that fails leaves it as it is. -/
def step (l : Lab) (o : Operation) : Lab :=
  match l.perform o with
  | .ok after => after
  | .error _ => l

/-- The lab after operations in their order. -/
def run (l : Lab) (operations : List Operation) : Lab := operations.foldl step l

/-- A device of the lab without its history. -/
def deviceState? (l : Lab) (id : DeviceId) : Option Device := (l.devices.find? id).map forget

/-! ## Labs from definitions -/

theorem keyed_insert {m : Inventory} (h : m.Keyed) {id : DeviceId} {d : Device} (hd : d.id = id) :
    Inventory.Keyed (m.insert id d) := by
  intro k e he
  rw [SortedMap.find?_insert] at he
  split at he
  next hk =>
    cases he
    exact hd.trans hk.symm
  next => exact h k e he

theorem id_boot (d : Device) : d.boot.id = d.id := by
  unfold boot
  split <;> rfl

theorem keyed_ofDefinition {definition : LabDefinition} {l : Lab}
    (h : ofDefinition definition = .ok l) : l.devices.Keyed := by
  intro id d hd
  obtain ⟨e, _, rfl, rfl⟩ := exists_of_find? h hd
  exact id_boot e

/-! ## One operation -/

theorem perform_eq_update (l : Lab) (o : Operation) :
    l.perform o = l.update o.device (o.action.apply l.devices) := by
  unfold perform
  cases o.action <;> rfl

/-- An operation on a device of the lab puts the new device in the place of the old one. -/
theorem perform_of_some {l : Lab} (h : l.devices.Keyed) {o : Operation} {d : Device}
    (hd : l.devices.find? o.device = some d) :
    l.perform o = .ok
      { l with devices := l.devices.insert o.device (o.action.apply l.devices d) } := by
  have hid : (o.action.apply l.devices d).id = o.device := by
    rw [Action.id_apply, h _ _ hd]
  have hin : l.devices.contains o.device = true := SortedMap.contains_of_find? hd
  rw [perform_eq_update, update, device?, hd]
  show l.replace (o.action.apply l.devices d) = _
  rw [replace, hid, if_pos hin]

/-- An operation on an unknown device fails. -/
theorem perform_of_none {l : Lab} {o : Operation} (hd : l.devices.find? o.device = none) :
    l.perform o = .error (.deviceNotFound o.device) := by
  rw [perform_eq_update, update, device?, hd]
  rfl

theorem step_of_some {l : Lab} (h : l.devices.Keyed) {o : Operation} {d : Device}
    (hd : l.devices.find? o.device = some d) :
    l.step o = { l with devices := l.devices.insert o.device (o.action.apply l.devices d) } := by
  rw [step, perform_of_some h hd]

theorem step_of_none {l : Lab} {o : Operation} (hd : l.devices.find? o.device = none) :
    l.step o = l := by
  rw [step, perform_of_none hd]

/-- All that a step can change is the device it is sent to. -/
theorem find?_step_other {l : Lab} (h : l.devices.Keyed) {o : Operation} {id : DeviceId}
    (hne : id ≠ o.device) : (l.step o).devices.find? id = l.devices.find? id := by
  cases hd : l.devices.find? o.device with
  | none => rw [step_of_none hd]
  | some d =>
    rw [step_of_some h hd]
    exact (SortedMap.find?_insert _ _ _ _).trans (if_neg hne)

theorem keys_step {l : Lab} (h : l.devices.Keyed) (o : Operation) :
    (l.step o).devices.keys = l.devices.keys := by
  cases hd : l.devices.find? o.device with
  | none => rw [step_of_none hd]
  | some d =>
    rw [step_of_some h hd]
    exact SortedMap.keys_insert_of_contains _ (SortedMap.contains_of_find? hd)

theorem step_eq {l : Lab} (h : l.devices.Keyed) (o : Operation) :
    l.step o = { l with devices := (l.step o).devices } := by
  cases hd : l.devices.find? o.device with
  | none => rw [step_of_none hd]
  | some d => rw [step_of_some h hd]

theorem keyed_step {l : Lab} (h : l.devices.Keyed) (o : Operation) :
    (l.step o).devices.Keyed := by
  cases hd : l.devices.find? o.device with
  | none =>
    rw [step_of_none hd]
    exact h
  | some d =>
    rw [step_of_some h hd]
    exact keyed_insert h ((Action.id_apply _ _ d).trans (h _ _ hd))

theorem keyed_run {l : Lab} (h : l.devices.Keyed) (operations : List Operation) :
    (l.run operations).devices.Keyed := by
  induction operations generalizing l with
  | nil => exact h
  | cons o rest ih => exact ih (keyed_step h o)

/-! ## Two runs -/

theorem deviceState?_step_other {l : Lab} (h : l.devices.Keyed) {o : Operation} {id : DeviceId}
    (hne : id ≠ o.device) : (l.step o).deviceState? id = l.deviceState? id :=
  congrArg (Option.map forget) (find?_step_other h hne)

/-- The state of a device after an operation on it depends on nothing but its state before. -/
theorem deviceState?_step {l l' : Lab} (h : l.devices.Keyed) (h' : l'.devices.Keyed)
    {o : Operation} (heq : l.deviceState? o.device = l'.deviceState? o.device) :
    (l.step o).deviceState? o.device = (l'.step o).deviceState? o.device := by
  have heq' := heq
  unfold deviceState? at heq'
  cases hd : l.devices.find? o.device with
  | none =>
    cases hd' : l'.devices.find? o.device with
    | none => rw [step_of_none hd, step_of_none hd', heq]
    | some d' =>
      rw [hd, hd'] at heq'
      cases heq'
  | some d =>
    cases hd' : l'.devices.find? o.device with
    | none =>
      rw [hd, hd'] at heq'
      cases heq'
    | some d' =>
      rw [hd, hd'] at heq'
      have hforget : d.forget = d'.forget := Option.some.inj heq'
      rw [step_of_some h hd, step_of_some h' hd']
      simp only [deviceState?, SortedMap.find?_insert, if_true, Option.map_some]
      have hact := Action.sameEffect_apply l.devices l'.devices o.action
      exact congrArg some (hact.congr (Action.sameEffect_apply _ _ o.action) hforget)

/-- Of a run, a device takes note of its own operations only. -/
theorem run_eq_run_filter {l l' : Lab} (h : l.devices.Keyed) (h' : l'.devices.Keyed)
    {id : DeviceId} (heq : l.deviceState? id = l'.deviceState? id)
    (operations : List Operation) :
    (l.run operations).deviceState? id =
      (l'.run (operations.filter fun o => o.device == id)).deviceState? id := by
  induction operations generalizing l l' with
  | nil => exact heq
  | cons o rest ih =>
    -- the two labs step together on the device's own operations; on any other the second waits
    by_cases ho : o.device = id
    · subst ho
      rw [List.filter_cons_of_pos (by simp)]
      exact ih (keyed_step h o) (keyed_step h' o) (deviceState?_step h h' heq)
    · rw [List.filter_cons_of_neg (by simpa using ho)]
      refine ih (keyed_step h o) h' ?_
      rw [deviceState?_step_other h (Ne.symm ho), heq]

/-- **The devices of a lab do not interfere.** In a lab that a definition makes, and after any run,
    an operation leaves alone every device but the one it is sent to, histories included, as well
    as the ids, the topology and the texts. Every device stands under its own id. The operation
    fails exactly for an unknown id, by the error that says so, and then changes nothing. Two runs
    that send a device the same operations in the same order leave it in the same state, whatever
    they send to others in between; only the histories may differ. -/
theorem devices_isolated {definition : LabDefinition} {l : Lab}
    (h : ofDefinition definition = .ok l) :
    (∀ (before : List Operation) (o : Operation),
      (∀ id, id ≠ o.device →
        ((l.run before).step o).devices.find? id = (l.run before).devices.find? id) ∧
      ((l.run before).step o).devices.keys = (l.run before).devices.keys ∧
      (l.run before).step o =
        { l.run before with devices := ((l.run before).step o).devices } ∧
      ((l.run before).step o).devices.Keyed ∧
      ((∃ e, (l.run before).perform o = .error e) ↔
        (l.run before).devices.contains o.device = false) ∧
      (∀ e, (l.run before).perform o = .error e →
        e = .deviceNotFound o.device ∧ (l.run before).step o = l.run before)) ∧
    (∀ (xs ys : List Operation) (id : DeviceId),
      (xs.filter fun o => o.device == id) = (ys.filter fun o => o.device == id) →
      (l.run xs).deviceState? id = (l.run ys).deviceState? id) := by
  have hl := keyed_ofDefinition h
  refine ⟨fun before o => ?_, fun xs ys id heq => ?_⟩
  · have hk := keyed_run hl before
    refine ⟨fun id hne => find?_step_other hk hne, keys_step hk o, step_eq hk o, keyed_step hk o,
      ?_, fun e he => ?_⟩
    · rw [SortedMap.contains_eq_false_iff]
      cases hd : (l.run before).devices.find? o.device with
      | none => simp [perform_of_none hd]
      | some d => simp [perform_of_some hk hd]
    · cases hd : (l.run before).devices.find? o.device with
      | none =>
        rw [perform_of_none hd] at he
        exact ⟨(Except.error.inj he).symm, step_of_none hd⟩
      | some d =>
        rw [perform_of_some hk hd] at he
        cases he
  · rw [run_eq_run_filter hl hl rfl xs, heq, ← run_eq_run_filter hl hl rfl ys]

/-- What is sent to `r1` does not show on `r2`. -/
theorem devices_isolated_two :
    let definition : LabDefinition :=
      { id := "two", title := "", description := "", difficulty := .beginner, vendor := ""
        devices :=
          [{ id := "r1", name := "r1", kind := .router, vendor := .cisco },
            { id := "r2", name := "r2", kind := .router, vendor := .juniper }]
        topology := [] }
    let configure : Operation := ⟨"r2", .line "configure"⟩
    ∃ l, ofDefinition definition = .ok l ∧
      (l.step ⟨"r1", .line "enable"⟩).devices.find? "r2" = l.devices.find? "r2" ∧
      (l.run [⟨"r1", .line "enable"⟩, configure]).deviceState? "r2" =
        (l.run [configure, ⟨"r1", .edit .commit⟩]).deviceState? "r2" := by
  intro definition configure
  have hok : (ofDefinition definition).isOk = true := by decide +kernel
  cases hl : ofDefinition definition with
  | error e =>
    rw [hl] at hok
    cases hok
  | ok l =>
    obtain ⟨hstep, hruns⟩ := devices_isolated hl
    refine ⟨l, rfl, ?_, ?_⟩
    · exact (hstep [] ⟨"r1", .line "enable"⟩).1 "r2" (by decide)
    · exact hruns _ _ "r2" rfl

end Lab

end TrainingLab
