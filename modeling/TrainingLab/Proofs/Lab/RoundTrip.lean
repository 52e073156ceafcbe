import TrainingLab.Proofs.Lab.Simulation
import TrainingLab.Proofs.Session.Scrollback

/-
  From a lab to its definition and back. The devices of the topology are taken out of the lab in the
  order of the path, and then what is left. As every device stands under its own id and the path
  names devices of the lab, none of them twice, nothing is lost and nothing comes twice. Loading the
  definition would give a device without a scrollback a new one, but there is no such device: the
  scrollback is filled when the lab is made, and only grows.

  Proved:
  * `history_action`, `booted_run`: no device of a lab that runs is without a scrollback.
  * `ids_toDefinition`, `mem_toDefinition_iff`: which devices the definition lists, and in which
    order.
  * `ofDefinition_toDefinition`: a lab is the one that its definition makes.
  * `definition_roundTrip`: this for every lab that runs, with what makes a definition valid.
-/

namespace TrainingLab

open Device

/-! ## Scrollbacks grow -/

namespace Device

theorem history_edit (d : Device) (e : GuiEdit) :
    ∃ more, (d.applyEdit e).history = d.history ++ more := by
  cases e with
  | interface name e =>
    simp only [applyEdit, applyInterfaceEdit]
    split
    next => exact ⟨_, rfl⟩
    next i _ =>
      refine ⟨logLines (e.message name (e.apply i)), ?_⟩
      split <;> rfl
  | commit =>
    rw [← history_commit d]
    exact ⟨_, rfl⟩

/-- Whatever is sent to a device adds to its scrollback. -/
theorem history_action (d : Device) (devices : Inventory) (a : Action) :
    ∃ more, (a.apply devices d).history = d.history ++ more := by
  cases a with
  | line text =>
    obtain ⟨answer, hanswer, _⟩ := d.history_interpret devices text
    exact ⟨d.echoLines text ++ answer, by rw [← List.append_assoc]; exact hanswer⟩
  | edit e => exact d.history_edit e

theorem history_boot_ne_nil (d : Device) : d.boot.history ≠ [] := by
  unfold boot
  split
  next => exact List.append_ne_nil_of_right_ne_nil _ (List.cons_ne_nil _ _)
  next hne => exact fun h => hne (List.isEmpty_iff.mpr h)

/-- A device with a scrollback keeps it when the lab is made. -/
theorem boot_of_history {d : Device} (h : d.history ≠ []) : d.boot = d := by
  rw [boot, if_neg (mt List.isEmpty_iff.mp h)]

end Device

namespace Lab

/-- Every device of the lab has a scrollback. -/
def Booted (l : Lab) : Prop := ∀ id d, l.devices.find? id = some d → d.history ≠ []

theorem booted_ofDefinition {definition : LabDefinition} {l : Lab}
    (h : ofDefinition definition = .ok l) : l.Booted := by
  intro id d hd
  obtain ⟨e, _, _, rfl⟩ := exists_of_find? h hd
  exact e.history_boot_ne_nil

theorem booted_step {l : Lab} (hk : l.devices.Keyed) (h : l.Booted) (o : Operation) :
    (l.step o).Booted := by
  intro id d hd
  by_cases hid : id = o.device
  · subst hid
    cases hold : l.devices.find? o.device with
    | none =>
      rw [step_of_none hold] at hd
      exact h _ d hd
    | some old =>
      rw [step_of_some hk hold] at hd
      obtain ⟨more, hmore⟩ := old.history_action l.devices o.action
      have hnew : o.action.apply l.devices old = d := by
        have hfound := SortedMap.find?_insert l.devices o.device o.device
          (o.action.apply l.devices old)
        rw [if_pos rfl] at hfound
        exact Option.some.inj (hfound.symm.trans hd)
      rw [← hnew, hmore]
      exact List.append_ne_nil_of_left_ne_nil (h _ old hold) more
  · rw [find?_step_other hk hid] at hd
    exact h id d hd

theorem booted_run {l : Lab} (hk : l.devices.Keyed) (h : l.Booted)
    (operations : List Operation) : (l.run operations).Booted := by
  induction operations generalizing l with
  | nil => exact h
  | cons o rest ih => exact ih (keyed_step hk o) (booted_step hk h o)

/-! ## The devices of the definition -/

/-- The ids of the devices that are not in the topology, in ascending order. -/
def offPath (l : Lab) : List DeviceId := (l.devices.eraseAll l.path).keys

section Listing

variable {l : Lab}

theorem mem_offPath_iff {id : DeviceId} :
    id ∈ l.offPath ↔ id ∉ l.path ∧ l.devices.contains id = true := by
  rw [offPath, SortedMap.mem_keys_iff, SortedMap.contains, SortedMap.find?_eraseAll]
  split
  next h => simp [h]
  next h => simp [h, SortedMap.contains]

theorem ascending_offPath (l : Lab) : l.offPath.Pairwise fun a b => compare a b = .lt :=
  List.pairwise_map.mpr (l.devices.eraseAll l.path).sorted

theorem keyed_eraseAll {m : Inventory} (h : m.Keyed) (ids : List DeviceId) :
    Inventory.Keyed (m.eraseAll ids) := by
  intro id d hd
  rw [SortedMap.find?_eraseAll] at hd
  split at hd
  next => cases hd
  next => exact h id d hd

theorem ids_values {m : Inventory} (h : m.Keyed) : m.values.map Device.id = m.keys := by
  rw [SortedMap.values, SortedMap.keys, List.map_map]
  exact List.map_congr_left fun x hx => h x.1 x.2 (SortedMap.mem_entries_iff.mp hx)

theorem ids_filterMap {m : Inventory} (h : m.Keyed) {ids : List DeviceId}
    (hresolved : ∀ id ∈ ids, m.contains id = true) :
    (ids.filterMap m.find?).map Device.id = ids := by
  induction ids with
  | nil => rfl
  | cons id rest ih =>
    obtain ⟨hid, hrest⟩ := List.forall_mem_cons.mp hresolved
    obtain ⟨d, hd⟩ := Option.isSome_iff_exists.mp hid
    rw [List.filterMap_cons_some hd, List.map_cons, h id d hd, ih hrest]

/-- The definition lists the devices of the topology, then the others. -/
theorem ids_toDefinition (hk : l.devices.Keyed) (hr : l.Routed) :
    l.toDefinition.devices.map Device.id = l.path ++ l.offPath := by
  rw [toDefinition, List.map_append, ids_filterMap hk hr.resolved,
    ids_values (keyed_eraseAll hk l.path), offPath]

theorem nodup_ids_toDefinition (hk : l.devices.Keyed) (hr : l.Routed) :
    (l.toDefinition.devices.map Device.id).Nodup := by
  rw [ids_toDefinition hk hr]
  refine List.nodup_append.mpr ⟨hr.distinct, SortedMap.nodup_keys _, fun id hid other hother => ?_⟩
  exact fun heq => (mem_offPath_iff.mp hother).1 (heq ▸ hid)

/-- The devices of the definition are those of the lab. -/
theorem mem_toDefinition_iff (hk : l.devices.Keyed) {d : Device} :
    d ∈ l.toDefinition.devices ↔ l.devices.find? d.id = some d := by
  rw [toDefinition, List.mem_append, List.mem_filterMap, SortedMap.values, List.mem_map]
  constructor
  · rintro (⟨id, _, hd⟩ | ⟨⟨id, e⟩, hentry, rfl⟩)
    · rw [hk id d hd]
      exact hd
    · have hleft := SortedMap.mem_entries_iff.mp hentry
      rw [keyed_eraseAll hk l.path id e hleft]
      rw [SortedMap.find?_eraseAll] at hleft
      split at hleft
      next => cases hleft
      next => exact hleft
  · intro hd
    by_cases hpath : d.id ∈ l.path
    · exact Or.inl ⟨d.id, hpath, hd⟩
    · refine Or.inr ⟨(d.id, d), SortedMap.mem_entries_iff.mpr ?_, rfl⟩
      rw [SortedMap.find?_eraseAll, if_neg hpath]
      exact hd

/-- A lab with all its invariants is the one that its definition makes. -/
theorem ofDefinition_toDefinition (hk : l.devices.Keyed) (hr : l.Routed) (hb : l.Booted) :
    ofDefinition l.toDefinition = .ok l := by
  have hdistinct := nodup_ids_toDefinition hk hr
  have hpath : l.toDefinition.topology.map TopologyNode.deviceId = l.path := rfl
  have hmap : (ofValid l.toDefinition).devices = l.devices := by
    refine SortedMap.ext_find? fun id => Option.ext fun d => ?_
    rw [find?_ofValid_iff hdistinct]
    simp only [mem_toDefinition_iff hk]
    constructor
    · rintro ⟨e, he, rfl, rfl⟩
      rw [boot_of_history (hb _ e he)]
      exact he
    · intro hd
      have hid : d.id = id := hk id d hd
      exact ⟨d, hid ▸ hd, hid, boot_of_history (hb id d hd)⟩
  refine ofDefinition_ok_iff.mpr ⟨hdistinct, ?_, ?_⟩
  · rw [hpath, ids_toDefinition hk hr]
    exact ⟨hr.distinct, fun id hid => List.mem_append_left _ hid⟩
  · exact congrArg (fun devices => { l with devices }) hmap.symm

end Listing

/-- **Definitions and labs.** A definition makes a lab exactly if no two devices have one id and the
    topology names devices, none of them twice. Otherwise the error names the first device with the
    id of one before it, or, if there is none, the first node of the topology that is unknown or a
    repetition. Whatever is done in a lab that has been made, its definition makes the same lab
    again, and it lists each device of the lab once: first the topology in its order, and then the
    others by their ids. -/
theorem definition_roundTrip (definition : LabDefinition) :
    let ids := definition.devices.map Device.id
    let path := definition.topology.map TopologyNode.deviceId
    ((∃ l, ofDefinition definition = .ok l) ↔ ids.Nodup ∧ path.Nodup ∧ ∀ id ∈ path, id ∈ ids) ∧
    (∀ e, ofDefinition definition = .error e ↔
      (∃ id, FirstRejected (fun _ => True) ids id ∧ e = .duplicateDevice id) ∨
      (ids.Nodup ∧
        ∃ id, FirstRejected (fun id => id ∈ ids) path id ∧ e = .danglingTopologyNode id)) ∧
    ∀ made, ofDefinition definition = .ok made → ∀ operations,
      let l := made.run operations
      ofDefinition l.toDefinition = .ok l ∧
      (l.toDefinition.devices.map Device.id).Nodup ∧
      (∀ d, d ∈ l.toDefinition.devices ↔ l.devices.find? d.id = some d) ∧
      ∃ others, l.toDefinition.devices.map Device.id = l.path ++ others ∧
        others.Pairwise fun a b => compare a b = .lt := by
  intro ids path
  refine ⟨?_, fun e => ofDefinition_error_iff, fun made h operations => ?_⟩
  · simp only [ofDefinition_ok_iff]
    constructor
    · rintro ⟨_, hids, hpath, _⟩
      exact ⟨hids, hpath.distinct, hpath.known⟩
    · rintro ⟨hids, hdistinct, hknown⟩
      exact ⟨_, hids, ⟨hdistinct, hknown⟩, rfl⟩
  · intro l
    have hkeyed := keyed_ofDefinition h
    have hk : l.devices.Keyed := keyed_run hkeyed operations
    have hr : l.Routed := routed_run hkeyed (routed_ofDefinition h) operations
    have hb : l.Booted := booted_run hkeyed (booted_ofDefinition h) operations
    exact ⟨ofDefinition_toDefinition hk hr hb, nodup_ids_toDefinition hk hr,
      fun d => mem_toDefinition_iff hk, l.offPath, ids_toDefinition hk hr, l.ascending_offPath⟩

/-- Of three devices the last is the only one in the topology; the definition of the running lab
    lists it first. With a fourth one under the id of the second there is no lab. -/
theorem definition_roundTrip_moved :
    let device (id : DeviceId) (vendor : Vendor) : Device :=
      { id, name := id, kind := .router, vendor }
    let definition : LabDefinition :=
      { id := "lab", title := "", description := "", difficulty := .beginner, vendor := ""
        devices := [device "r2" .cisco, device "r1" .cisco, device "r3" .juniper]
        topology :=
          [{ deviceId := "r3", label := "core", icon := .router, x := .integer 0,
             y := .integer 0 }] }
    let operations : List Operation :=
      [⟨"r3", .line "configure"⟩, ⟨"r3", .line "set system host-name core"⟩,
        ⟨"r3", .edit .commit⟩]
    (∃ made, ofDefinition definition = .ok made ∧
      ofDefinition (made.run operations).toDefinition = .ok (made.run operations) ∧
      (made.run operations).hostname "r3" = "core" ∧
      ((made.run operations).toDefinition.devices.map Device.id).head? = some "r3") ∧
    ofDefinition { definition with devices := definition.devices ++ [device "r1" .cisco] } =
      .error (.duplicateDevice "r1") := by
  intro device definition operations
  obtain ⟨⟨_, hvalid⟩, _, hruns⟩ := definition_roundTrip definition
  obtain ⟨made, hmade⟩ := hvalid (by decide)
  obtain ⟨hsame, _, _, others, hids, _⟩ := hruns made hmade operations
  have hdecided : (ofDefinition definition).toOption.any (fun made =>
      decide ((made.run operations).hostname "r3" = "core" ∧
        (made.run operations).path = ["r3"])) = true := by
    decide +kernel
  rw [hmade] at hdecided
  obtain ⟨hname, hpath⟩ := of_decide_eq_true hdecided
  refine ⟨⟨made, hmade, hsame, hname, ?_⟩, ?_⟩
  · rw [hids, hpath]
    rfl
  · refine ((definition_roundTrip _).2.1 _).mpr (Or.inl ⟨"r1", ?_, rfl⟩)
    exact ⟨["r2", "r1", "r3"], [], rfl, ⟨by decide, fun _ _ => trivial⟩, Or.inl (by decide)⟩

end Lab

end TrainingLab
