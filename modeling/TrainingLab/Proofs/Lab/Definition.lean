import TrainingLab.Lab.Definition
import TrainingLab.Proofs.SortedMap

/-
  Which definitions make a lab. The devices and the topology are gone through in the same way: each
  id has to be one that is known, and none may occur twice. The first id for which this fails is
  the one that the error names. For the devices every id is known, for the topology those of the
  devices are.

  Proved:
  * `collectDevices_ok_iff`, `checkPath_ok_iff`: when the two lists are taken.
  * `collectDevices_error_iff`, `checkPath_error_iff`: which id is named if they are not.
  * `ofDefinition_ok_iff`, `ofDefinition_error_iff`: both for a definition as a whole, with the lab
    that it makes.
-/

namespace TrainingLab

/-- What is said of the value of a computation that may fail says that there is one. -/
theorem exists_of_any_toOption {ε α : Type} {x : Except ε α} {p : α → Bool}
    (h : x.toOption.any p = true) : ∃ a, x = .ok a ∧ p a = true := by
  cases x with
  | error e => cases h
  | ok a => exact ⟨a, rfl, h⟩

/-! ## Ids in their order -/

/-- All the ids are known, and none occurs twice. -/
structure Accepted (known : DeviceId → Prop) (ids : List DeviceId) : Prop where
  distinct : ids.Nodup
  known : ∀ id ∈ ids, known id

/-- The id is the first one in the list that is unknown or has occurred before. -/
def FirstRejected (known : DeviceId → Prop) (ids : List DeviceId) (id : DeviceId) : Prop :=
  ∃ before after, ids = before ++ id :: after ∧ Accepted known before ∧
    (id ∈ before ∨ ¬ known id)

section Order

variable {known : DeviceId → Prop} {id : DeviceId} {rest : List DeviceId}

theorem accepted_nil : Accepted known [] := ⟨List.nodup_nil, List.forall_mem_nil _⟩

/-- Once it has been accepted, an id is no longer known to the rest. -/
theorem accepted_cons :
    Accepted known (id :: rest) ↔ known id ∧ Accepted (fun i => known i ∧ i ≠ id) rest := by
  constructor
  · rintro ⟨hdistinct, hknown⟩
    obtain ⟨hid, hrest⟩ := List.nodup_cons.mp hdistinct
    exact ⟨hknown id List.mem_cons_self, hrest,
      fun i hi => ⟨hknown i (List.mem_cons_of_mem id hi), fun heq => hid (heq ▸ hi)⟩⟩
  · rintro ⟨hid, hrest⟩
    exact ⟨List.nodup_cons.mpr ⟨fun hmem => (hrest.known id hmem).2 rfl, hrest.distinct⟩,
      List.forall_mem_cons.mpr ⟨hid, fun i hi => (hrest.known i hi).1⟩⟩

theorem not_firstRejected_nil : ¬ FirstRejected known [] id :=
  fun ⟨_, _, heq, _⟩ => List.append_ne_nil_of_right_ne_nil _ (List.cons_ne_nil _ _) heq.symm

theorem firstRejected_cons_of_unknown (h : ¬ known id) {x : DeviceId} :
    FirstRejected known (id :: rest) x ↔ x = id := by
  constructor
  · rintro ⟨before, after, heq, hbefore, _⟩
    cases before with
    | nil => exact (List.cons.inj heq).1.symm
    | cons b before =>
      obtain ⟨rfl, _⟩ := List.cons.inj heq
      exact absurd (hbefore.known id List.mem_cons_self) h
  · rintro rfl
    exact ⟨[], rest, rfl, accepted_nil, Or.inr h⟩

theorem firstRejected_cons_of_known (h : known id) {x : DeviceId} :
    FirstRejected known (id :: rest) x ↔
      FirstRejected (fun i => known i ∧ i ≠ id) rest x := by
  constructor
  · rintro ⟨before, after, heq, hbefore, hbad⟩
    cases before with
    | nil =>
      obtain ⟨rfl, _⟩ := List.cons.inj heq
      exact absurd h (hbad.resolve_left List.not_mem_nil)
    | cons b before =>
      obtain ⟨rfl, rfl⟩ := List.cons.inj heq
      refine ⟨before, after, rfl, (accepted_cons.mp hbefore).2, ?_⟩
      rcases hbad with hmem | hunknown
      · rcases List.mem_cons.mp hmem with rfl | hmem
        · exact Or.inr fun hx => hx.2 rfl
        · exact Or.inl hmem
      · exact Or.inr fun hx => hunknown hx.1
  · rintro ⟨before, after, rfl, hbefore, hbad⟩
    refine ⟨id :: before, after, rfl, accepted_cons.mpr ⟨h, hbefore⟩, ?_⟩
    rcases hbad with hmem | hbad
    · exact Or.inl (List.mem_cons_of_mem id hmem)
    · by_cases hx : x = id
      · exact Or.inl (hx ▸ List.mem_cons_self)
      · exact Or.inr fun hknown => hbad ⟨hknown, hx⟩

/-- Where an id is rejected, not all are accepted. -/
theorem FirstRejected.not_accepted {ids : List DeviceId} (h : FirstRejected known ids id) :
    ¬ Accepted known ids := by
  obtain ⟨before, after, rfl, _, hbad⟩ := h
  rintro ⟨hdistinct, hknown⟩
  rcases hbad with hmem | hunknown
  · exact (List.nodup_append.mp hdistinct).2.2 id hmem id List.mem_cons_self rfl
  · exact hunknown (hknown id (List.mem_append_right before List.mem_cons_self))

end Order

namespace Lab

/-! ## Devices -/

/-- No device of the inventory has the id. -/
def Free (m : Inventory) (id : DeviceId) : Prop := m.contains id = false

/-- The device with the id takes it from all others. -/
theorem free_insert (m : Inventory) (d : Device) :
    Free (m.insert d.id d.boot) = fun i => Free m i ∧ i ≠ d.id := by
  funext i
  rw [Free, Free, SortedMap.contains_insert, eq_iff_iff]
  by_cases h : i = d.id
  · simp [h]
  · simp [h]

theorem collectDevices_ok_iff {devices : List Device} {m m' : Inventory} :
    collectDevices devices m = .ok m' ↔
      Accepted (Free m) (devices.map Device.id) ∧
        m' = m.insertAll (devices.map fun d => (d.id, d.boot)) := by
  induction devices generalizing m with
  | nil =>
    rw [collectDevices, Except.ok.injEq]
    exact ⟨fun h => ⟨accepted_nil, h.symm⟩, fun h => h.2.symm⟩
  | cons d rest ih =>
    rw [collectDevices, List.map_cons, accepted_cons]
    split
    next htaken => exact ⟨nofun, fun h => absurd htaken (Bool.eq_false_iff.mp h.1.1)⟩
    next hfree =>
      rw [ih, free_insert]
      exact ⟨fun h => ⟨⟨Bool.eq_false_iff.mpr hfree, h.1⟩, h.2⟩, fun h => ⟨h.1.2, h.2⟩⟩

theorem collectDevices_error_iff {devices : List Device} {m : Inventory} {e : LabError} :
    collectDevices devices m = .error e ↔
      ∃ id, FirstRejected (Free m) (devices.map Device.id) id ∧ e = .duplicateDevice id := by
  induction devices generalizing m with
  | nil => exact ⟨nofun, fun ⟨_, h, _⟩ => absurd h not_firstRejected_nil⟩
  | cons d rest ih =>
    rw [collectDevices, List.map_cons]
    split
    next htaken =>
      have hunknown : ¬ Free m d.id := fun hfree => Bool.eq_false_iff.mp hfree htaken
      simp only [firstRejected_cons_of_unknown hunknown, exists_eq_left, Except.error.injEq]
      exact eq_comm
    next hfree =>
      have hknown : Free m d.id := Bool.eq_false_iff.mpr hfree
      simp only [firstRejected_cons_of_known hknown, ih, free_insert]

/-! ## Topology -/

/-- The id is that of a device, and not one of those that have been seen. -/
def Resolves (devices : Inventory) (seen : List DeviceId) (id : DeviceId) : Prop :=
  devices.contains id = true ∧ id ∉ seen

theorem resolves_cons (devices : Inventory) (seen : List DeviceId) (id : DeviceId) :
    Resolves devices (id :: seen) = fun i => Resolves devices seen i ∧ i ≠ id := by
  funext i
  rw [Resolves, Resolves, List.mem_cons, not_or, and_comm (a := i ≠ id), and_assoc]

theorem resolves_iff {devices : Inventory} {seen : List DeviceId} {id : DeviceId} :
    Resolves devices seen id ↔ (devices.contains id && !seen.contains id) = true := by
  rw [Resolves, Bool.and_eq_true, Bool.not_eq_true', List.contains_eq_mem,
    decide_eq_false_iff_not]

theorem checkPath_ok_iff {devices : Inventory} {seen ids : List DeviceId} :
    checkPath devices seen ids = .ok () ↔ Accepted (Resolves devices seen) ids := by
  induction ids generalizing seen with
  | nil => exact ⟨fun _ => accepted_nil, fun _ => rfl⟩
  | cons id rest ih =>
    rw [checkPath, accepted_cons]
    split
    next hid =>
      rw [ih, resolves_cons]
      exact ⟨fun h => ⟨resolves_iff.mpr hid, h⟩, fun h => h.2⟩
    next hid => exact ⟨nofun, fun h => absurd (resolves_iff.mp h.1) hid⟩

theorem checkPath_error_iff {devices : Inventory} {seen ids : List DeviceId} {e : LabError} :
    checkPath devices seen ids = .error e ↔
      ∃ id, FirstRejected (Resolves devices seen) ids id ∧ e = .danglingTopologyNode id := by
  induction ids generalizing seen with
  | nil => exact ⟨nofun, fun ⟨_, h, _⟩ => absurd h not_firstRejected_nil⟩
  | cons id rest ih =>
    rw [checkPath]
    split
    next hid =>
      have hknown : Resolves devices seen id := resolves_iff.mpr hid
      simp only [firstRejected_cons_of_known hknown, ih, resolves_cons]
    next hid =>
      have hunknown : ¬ Resolves devices seen id := fun h => hid (resolves_iff.mp h)
      simp only [firstRejected_cons_of_unknown hunknown, exists_eq_left, Except.error.injEq]
      exact eq_comm

/-! ## Definitions -/

/-- The lab of a definition: all its devices, as they are once they have been started. -/
def ofValid (definition : LabDefinition) : Lab where
  id := definition.id
  title := definition.title
  description := definition.description
  difficulty := definition.difficulty
  vendor := definition.vendor
  devices := SortedMap.ofList (definition.devices.map fun d => (d.id, d.boot))
  topology := definition.topology
  objectives := definition.objectives
  documentation := definition.documentation

/-- All ids are free in an inventory without devices. -/
theorem free_empty : Free SortedMap.empty = fun _ => True := by
  funext id
  exact eq_true (congrArg Option.isSome (SortedMap.find?_empty id))

/-- The lab of a definition has its devices and no others. -/
theorem find?_ofValid_iff {definition : LabDefinition}
    (h : (definition.devices.map Device.id).Nodup) {id : DeviceId} {d : Device} :
    (ofValid definition).devices.find? id = some d ↔
      ∃ e ∈ definition.devices, e.id = id ∧ e.boot = d := by
  have hkeys : ((definition.devices.map fun d => (d.id, d.boot)).map Prod.fst).Nodup := by
    rw [List.map_map]
    exact h
  rw [ofValid, SortedMap.find?_ofList_iff hkeys, List.mem_map]
  simp only [Prod.mk.injEq]

theorem resolves_ofValid {definition : LabDefinition}
    (h : (definition.devices.map Device.id).Nodup) :
    Resolves (ofValid definition).devices [] = fun id => id ∈ definition.devices.map Device.id := by
  funext id
  rw [Resolves, SortedMap.contains, Option.isSome_iff_exists, List.mem_map, eq_iff_iff]
  simp only [find?_ofValid_iff h, List.not_mem_nil, not_false_iff, and_true]
  constructor
  · rintro ⟨_, d, hd, rfl, _⟩
    exact ⟨d, hd, rfl⟩
  · rintro ⟨d, hd, rfl⟩
    exact ⟨d.boot, d, hd, rfl, rfl⟩

section Definition

variable {definition : LabDefinition}

theorem collectDevices_of_nodup (h : (definition.devices.map Device.id).Nodup) :
    collectDevices definition.devices SortedMap.empty = .ok (ofValid definition).devices :=
  collectDevices_ok_iff.mpr ⟨free_empty ▸ ⟨h, fun _ _ => trivial⟩, rfl⟩

/-- Without two devices of one id, it is the topology that decides. -/
theorem ofDefinition_of_nodup (h : (definition.devices.map Device.id).Nodup) :
    ofDefinition definition =
      (checkPath (ofValid definition).devices []
        (definition.topology.map TopologyNode.deviceId)).map fun _ => ofValid definition := by
  unfold ofDefinition
  rw [collectDevices_of_nodup h]
  simp only [bind, Except.bind]
  cases checkPath (ofValid definition).devices []
    (definition.topology.map TopologyNode.deviceId) <;> rfl

/-- A device with the id of one before it is what an error names first. -/
theorem ofDefinition_of_repeated {id : DeviceId}
    (h : FirstRejected (fun _ => True) (definition.devices.map Device.id) id) :
    ofDefinition definition = .error (.duplicateDevice id) := by
  have hcollect : collectDevices definition.devices SortedMap.empty =
      .error (.duplicateDevice id) := collectDevices_error_iff.mpr ⟨id, free_empty ▸ h, rfl⟩
  unfold ofDefinition
  rw [hcollect]
  rfl

/-- Either no id of a device is repeated, or there is a first one that is. -/
theorem nodup_or_repeated (definition : LabDefinition) :
    (definition.devices.map Device.id).Nodup ∨
      ∃ id, FirstRejected (fun _ => True) (definition.devices.map Device.id) id := by
  cases hc : collectDevices definition.devices SortedMap.empty with
  | ok m => exact Or.inl (collectDevices_ok_iff.mp hc).1.distinct
  | error e =>
    obtain ⟨id, hid, _⟩ := collectDevices_error_iff.mp hc
    exact Or.inr ⟨id, free_empty ▸ hid⟩

/-- A definition makes a lab if no two devices have one id and the topology is made of these ids,
    none of them twice. -/
theorem ofDefinition_ok_iff {l : Lab} :
    ofDefinition definition = .ok l ↔
      (definition.devices.map Device.id).Nodup ∧
        Accepted (fun id => id ∈ definition.devices.map Device.id)
          (definition.topology.map TopologyNode.deviceId) ∧ l = ofValid definition := by
  rcases nodup_or_repeated definition with hdistinct | ⟨id, hrepeated⟩
  · rw [ofDefinition_of_nodup hdistinct, ← resolves_ofValid hdistinct, ← checkPath_ok_iff]
    cases checkPath (ofValid definition).devices []
        (definition.topology.map TopologyNode.deviceId) with
    | error e => exact ⟨nofun, nofun⟩
    | ok _ =>
      exact ⟨fun h => ⟨hdistinct, rfl, (Except.ok.inj h).symm⟩, fun h => congrArg _ h.2.2.symm⟩
  · rw [ofDefinition_of_repeated hrepeated]
    exact ⟨nofun, fun h => absurd ⟨h.1, fun _ _ => trivial⟩ hrepeated.not_accepted⟩

/-- A device of the lab is one of the definition that has been started. -/
theorem exists_of_find? {l : Lab} (h : ofDefinition definition = .ok l) {id : DeviceId}
    {d : Device} (hd : l.devices.find? id = some d) :
    ∃ e ∈ definition.devices, e.id = id ∧ e.boot = d := by
  obtain ⟨hdistinct, _, rfl⟩ := ofDefinition_ok_iff.mp h
  exact (find?_ofValid_iff hdistinct).mp hd

/-- Otherwise the error names the first device with the id of one before it, or else the first id
    of the topology that is unknown or occurs once more. -/
theorem ofDefinition_error_iff {e : LabError} :
    ofDefinition definition = .error e ↔
      (∃ id, FirstRejected (fun _ => True) (definition.devices.map Device.id) id ∧
        e = .duplicateDevice id) ∨
      ((definition.devices.map Device.id).Nodup ∧
        ∃ id, FirstRejected (fun id => id ∈ definition.devices.map Device.id)
          (definition.topology.map TopologyNode.deviceId) id ∧ e = .danglingTopologyNode id) := by
  rcases nodup_or_repeated definition with hdistinct | ⟨id, hrepeated⟩
  · have hno : ∀ id, ¬ FirstRejected (fun _ => True) (definition.devices.map Device.id) id :=
      fun id h => h.not_accepted ⟨hdistinct, fun _ _ => trivial⟩
    rw [ofDefinition_of_nodup hdistinct, ← resolves_ofValid hdistinct, ← checkPath_error_iff]
    simp only [hno, hdistinct, false_and, exists_false, true_and, false_or]
    cases checkPath (ofValid definition).devices []
        (definition.topology.map TopologyNode.deviceId) with
    | error e =>
      exact ⟨fun h => congrArg _ (Except.error.inj h), fun h => congrArg _ (Except.error.inj h)⟩
    | ok _ => exact ⟨nofun, nofun⟩
  · constructor
    · intro h
      rw [ofDefinition_of_repeated hrepeated] at h
      exact Or.inl ⟨id, hrepeated, (Except.error.inj h).symm⟩
    · rintro (⟨id, hid, rfl⟩ | ⟨hdistinct, _⟩)
      · exact ofDefinition_of_repeated hid
      · exact absurd ⟨hdistinct, fun _ _ => trivial⟩ hrepeated.not_accepted

end Definition

end Lab

end TrainingLab
