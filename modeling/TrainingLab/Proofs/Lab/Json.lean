import TrainingLab.Catalog.Basic
import TrainingLab.Proofs.Device.Json
import TrainingLab.Proofs.Json.Held
import TrainingLab.Proofs.Lab.RoundTrip

/-
  Labs in JSON. A definition is read from the record that is written of it, and from the text of
  this record, if JSON can write the coordinates of its drawing and they are finite. Those of a lab
  that was read are, and no operation changes the drawing. The rest of a lab is texts, devices and
  what makes a definition valid.

  Proved:
  * `LabDefinition.ofDatum?_toDatum`, `LabDefinition.printable_toDatum`: for every definition that
    can be drawn.
  * `Lab.Reachable.recordable`: every lab that comes from one that was loaded can be drawn, and has
    the invariants of a lab that runs.
  * `Lab.json_roundTrip`: devices and labs that run are read from their texts.
-/

namespace TrainingLab

open Datum

/-! ## Drawings -/

/-- The coordinate is read as it is written. -/
def Numeral.IsCoordinate (n : Numeral) : Prop := n.Held ∧ n.isFinite = true

/-- The coordinates of the nodes are read as they are written. -/
def Drawable (topology : List TopologyNode) : Prop :=
  ∀ n ∈ topology, n.x.IsCoordinate ∧ n.y.IsCoordinate

/-! ## Definitions as records -/

theorem Difficulty.ofName?_name (d : Difficulty) : ofName? d.name = some d := by
  cases d <;> rfl

theorem required_finite {n : Numeral} (h : n.isFinite = true) :
    required (some (.number n)) finite? = some n := by
  rw [required, Option.bind_some, finite?, if_pos h]

namespace TopologyNode

theorem ofDatum?_toDatum {n : TopologyNode} (hx : n.x.IsCoordinate) (hy : n.y.IsCoordinate) :
    ofDatum? n.toDatum = some n := by
  have hwritten : Written
      [⟨"device_id", .never⟩, ⟨"label", .never⟩, ⟨"icon", .never⟩, ⟨"x", .never⟩, ⟨"y", .never⟩]
      [some (.text n.deviceId), some (.text n.label), some (.text n.icon.name),
        some (.number n.x), some (.number n.y)] _ :=
    .present _ _ (.present _ _ (.present _ _ (.present _ _ (.present _ _ .nil))))
  have hvalues : fieldValues? _ n.toDatum = some _ :=
    hwritten.fieldValues? (by decide) (.refl _) true
  have hicon : required (some (.text n.icon.name)) (choice? DeviceClass.ofName?) = some n.icon :=
    n.icon.ofName?_name
  rw [ofDatum?, hvalues]
  simp only [hicon, required_finite hx.2, required_finite hy.2]
  rfl

theorem printable_toDatum {n : TopologyNode} (hx : n.x.IsCoordinate) (hy : n.y.IsCoordinate) :
    n.toDatum.Printable := by
  simp [toDatum, printable_number hx.1, printable_number hy.1]

end TopologyNode

namespace Documentation

theorem ofDatum?_toDatum (d : Documentation) : ofDatum? d.toDatum = some d := by
  have hwritten : Written [⟨"initial_config", .never⟩, ⟨"packet_flow", .never⟩]
      [some (.text d.initialConfig), some (.text d.packetFlow)] _ :=
    .present _ _ (.present _ _ .nil)
  have hvalues : fieldValues? _ d.toDatum = some _ :=
    hwritten.fieldValues? (by decide) (.refl _) true
  rw [ofDatum?, hvalues]
  rfl

theorem printable_toDatum (d : Documentation) : d.toDatum.Printable := by
  simp [toDatum]

end Documentation

namespace LabDefinition

theorem ofDatum?_toDatum {l : LabDefinition} (h : Drawable l.topology) :
    ofDatum? l.toDatum = some l := by
  have hwritten : Written fields
      [some (.text l.id), some (.text l.title), some (.text l.description),
        some (.text l.difficulty.name), some (.text l.vendor),
        some (.list (l.devices.map Device.toDatum)),
        some (.list (l.topology.map TopologyNode.toDatum)), some (.ofTexts l.objectives),
        some l.documentation.toDatum] _ :=
    .present _ _ (.present _ _ (.present _ _ (.present _ _ (.present _ _ (.present _ _
      (.present _ _ (.present _ _ (.present _ _ .nil))))))))
  have hvalues : fieldValues? fields l.toDatum = some _ :=
    hwritten.fieldValues? (by decide) (.refl _) true
  have hdifficulty : required (some (.text l.difficulty.name)) (choice? Difficulty.ofName?) =
      some l.difficulty :=
    l.difficulty.ofName?_name
  have hdevices : required (some (.list (l.devices.map Device.toDatum)))
      (list? Device.ofDatum?) = some l.devices :=
    list?_map fun d _ => d.ofDatum?_toDatum
  have htopology : required (some (.list (l.topology.map TopologyNode.toDatum)))
      (list? TopologyNode.ofDatum?) = some l.topology :=
    list?_map fun n hn => TopologyNode.ofDatum?_toDatum (h n hn).1 (h n hn).2
  rw [ofDatum?, hvalues]
  simp only [orElse, hdifficulty, hdevices, htopology, list?_ofTexts,
    Documentation.ofDatum?_toDatum]
  rfl

theorem printable_toDatum {l : LabDefinition} (h : Drawable l.topology) : l.toDatum.Printable := by
  have hdevices : (Datum.list (l.devices.map Device.toDatum)).Printable :=
    printable_map fun d _ => d.printable_toDatum
  have htopology : (Datum.list (l.topology.map TopologyNode.toDatum)).Printable :=
    printable_map fun n hn => TopologyNode.printable_toDatum (h n hn).1 (h n hn).2
  simp [toDatum, hdevices, htopology, l.documentation.printable_toDatum]

end LabDefinition

/-! ## Drawings that are read -/

theorem isCoordinate_of_finite? {d : Datum} {n : Numeral} (h : finite? d = some n)
    (hd : d.Every Json.HoldsNumber) : n.IsCoordinate := by
  unfold finite? at h
  split at h
  next m =>
    split at h
    next hfinite =>
      cases h
      exact ⟨hd.whole, hfinite⟩
    next => cases h
  next => cases h

theorem TopologyNode.isCoordinate_of_ofDatum? {d : Datum} {n : TopologyNode}
    (h : ofDatum? d = some n) (hd : d.Every Json.HoldsNumber) :
    n.x.IsCoordinate ∧ n.y.IsCoordinate := by
  unfold ofDatum? at h
  split at h
  next _ _ _ x y hvalues =>
    have hcoordinate : ∀ {value : Option Datum} {m : Numeral},
        value ∈ [x, y] → required value finite? = some m → m.IsCoordinate := by
      intro value m hvalue hm
      obtain ⟨c, rfl, hc⟩ := Option.bind_eq_some_iff.mp hm
      have hmem := mem_of_fieldValues? hvalues
        (List.mem_of_mem_drop (i := 3) hvalue)
      exact isCoordinate_of_finite? hc (hd.parts c hmem)
    simp only [bind, Option.bind_eq_some_iff] at h
    obtain ⟨_, _, _, _, _, _, x', hx, y', hy, heq⟩ := h
    cases heq
    exact ⟨hcoordinate (by simp) hx, hcoordinate (by simp) hy⟩
  next => cases h

theorem LabDefinition.drawable_of_ofDatum? {d : Datum} {l : LabDefinition}
    (h : ofDatum? d = some l) (hd : d.Every Json.HoldsNumber) : Drawable l.topology := by
  unfold ofDatum? at h
  split at h
  next _ _ _ _ _ _ topology _ _ hvalues =>
    simp only [bind, Option.bind_eq_some_iff] at h
    obtain ⟨_, _, _, _, _, _, _, _, _, _, _, _, nodes, hnodes, _, _, _, _, heq⟩ := h
    cases heq
    obtain ⟨c, rfl, hc⟩ := Option.bind_eq_some_iff.mp hnodes
    have hlist := hd.parts c (mem_of_fieldValues? hvalues (by simp))
    intro n hn
    obtain ⟨node, hnode, hread⟩ := exists_of_list? hc n hn
    exact TopologyNode.isCoordinate_of_ofDatum? hread (hlist.parts node hnode)
  next => cases h

/-! ## Labs -/

instance : DecidablePred Numeral.Held
  | .integer n => inferInstanceAs (Decidable (n.natAbs < UInt64.size))
  | .decimal _ digits _ => inferInstanceAs (Decidable (digits < UInt64.size))
  | .infinite _ => inferInstanceAs (Decidable False)
  | .undefined => inferInstanceAs (Decidable False)

instance : DecidablePred Numeral.IsCoordinate := fun n =>
  inferInstanceAs (Decidable (n.Held ∧ n.isFinite = true))

instance : DecidablePred Drawable := fun topology =>
  inferInstanceAs (Decidable (∀ n ∈ topology, n.x.IsCoordinate ∧ n.y.IsCoordinate))

/-- The labs of the catalog are drawn with small numbers. -/
theorem drawable_catalog : ∀ definition ∈ Catalog.definitions, Drawable definition.topology := by
  decide +kernel

namespace Lab

/-- The lab is as it was loaded: from a text, by its id from the catalog, or with the whole
    catalog. -/
inductive Loaded : Lab → Prop
  | read {text : String} {l : Lab} (h : ofJson text = .ok l) : Loaded l
  | picked {id : String} {l : Lab} (h : Catalog.lab id = .ok l) : Loaded l
  | listed {all : List Lab} {l : Lab} (h : Catalog.labs = .ok all) (hl : l ∈ all) : Loaded l

theorem exists_definition_of_read {text : String} {l : Lab} (h : ofJson text = .ok l) :
    ∃ definition, ofDefinition definition = .ok l ∧ Drawable definition.topology := by
  unfold ofJson at h
  split at h
  next d hd =>
    unfold ofDatum at h
    split at h
    next definition hdefinition =>
      exact ⟨definition, h,
        LabDefinition.drawable_of_ofDatum? hdefinition (Json.every_read? hd)⟩
    next => cases h
  next => cases h

theorem exists_definition_of_listed {definitions : List LabDefinition} {all : List Lab}
    (h : definitions.mapM ofDefinition = .ok all) :
    ∀ l ∈ all, ∃ definition ∈ definitions, ofDefinition definition = .ok l := by
  induction definitions generalizing all with
  | nil =>
    cases h
    exact List.forall_mem_nil _
  | cons definition rest ih =>
    rw [List.mapM_cons] at h
    cases hfirst : ofDefinition definition with
    | error e =>
      rw [hfirst] at h
      cases h
    | ok first =>
      cases hothers : rest.mapM ofDefinition with
      | error e =>
        rw [hfirst, hothers] at h
        cases h
      | ok others =>
        rw [hfirst, hothers] at h
        cases h
        refine List.forall_mem_cons.mpr ⟨⟨definition, List.mem_cons_self, hfirst⟩, fun l hl => ?_⟩
        obtain ⟨d, hd, hmakes⟩ := ih hothers l hl
        exact ⟨d, List.mem_cons_of_mem _ hd, hmakes⟩

/-- A lab that is loaded is made by a definition that can be drawn. -/
theorem Loaded.exists_definition {l : Lab} (h : l.Loaded) :
    ∃ definition, ofDefinition definition = .ok l ∧ Drawable definition.topology := by
  cases h with
  | read h => exact exists_definition_of_read h
  | picked h =>
    unfold Catalog.lab at h
    split at h
    next definition hfound =>
      exact ⟨definition, h, drawable_catalog definition (List.mem_of_find?_eq_some hfound)⟩
    next => cases h
  | listed h hl =>
    obtain ⟨definition, hmem, hmakes⟩ := exists_definition_of_listed h l hl
    exact ⟨definition, hmakes, drawable_catalog definition hmem⟩

/-- The lab comes from one that was loaded: lines and edits were sent to its devices, and devices
    were changed from outside in ways that leave none without a scrollback. -/
inductive Reachable : Lab → Prop
  | loaded {l : Lab} (h : l.Loaded) : Reachable l
  | performed {l after : Lab} {o : Operation} (h : Reachable l) (hdone : l.perform o = .ok after) :
      Reachable after
  | prepared {l after : Lab} {id : DeviceId} {f : Device → Device} (h : Reachable l)
      (hhistory : ∀ d, d.history ≠ [] → (f d).history ≠ []) (hdone : l.update id f = .ok after) :
      Reachable after

/-- What a lab needs to be read from the text of its definition. -/
structure Recordable (l : Lab) : Prop where
  keyed : l.devices.Keyed
  routed : l.Routed
  booted : l.Booted
  drawable : Drawable l.topology

theorem Loaded.recordable {l : Lab} (h : l.Loaded) : l.Recordable := by
  obtain ⟨definition, hmade, hdrawable⟩ := h.exists_definition
  have htopology : l.topology = definition.topology := by
    obtain ⟨_, _, rfl⟩ := ofDefinition_ok_iff.mp hmade
    rfl
  exact ⟨keyed_ofDefinition hmade, routed_ofDefinition hmade, booted_ofDefinition hmade,
    htopology ▸ hdrawable⟩

theorem Recordable.insert {l : Lab} (h : l.Recordable) {id : DeviceId} {d : Device}
    (hid : d.id = id) (hhistory : d.history ≠ []) :
    Recordable { l with devices := l.devices.insert id d } where
  keyed := keyed_insert h.keyed hid
  routed := h.routed.insert id d
  booted := by
    intro k e he
    rw [SortedMap.find?_insert] at he
    split at he
    next =>
      cases he
      exact hhistory
    next => exact h.booted k e he
  drawable := h.drawable

theorem Recordable.update {l after : Lab} (h : l.Recordable) {id : DeviceId} {f : Device → Device}
    (hhistory : ∀ d, d.history ≠ [] → (f d).history ≠ []) (hdone : l.update id f = .ok after) :
    after.Recordable := by
  unfold Lab.update device? at hdone
  split at hdone
  next d hd =>
    change l.replace (f d) = .ok after at hdone
    unfold replace at hdone
    split at hdone
    next =>
      cases hdone
      exact h.insert rfl (hhistory d (h.booted id d hd))
    next => cases hdone
  next => cases hdone

theorem Recordable.perform {l after : Lab} (h : l.Recordable) {o : Operation}
    (hdone : l.perform o = .ok after) : after.Recordable := by
  rw [perform_eq_update] at hdone
  refine h.update (fun d hhistory => ?_) hdone
  obtain ⟨more, hmore⟩ := d.history_action l.devices o.action
  rw [hmore]
  exact List.append_ne_nil_of_left_ne_nil hhistory more

theorem Reachable.recordable {l : Lab} (h : l.Reachable) : l.Recordable := by
  induction h with
  | loaded h => exact h.recordable
  | performed _ hdone ih => exact ih.perform hdone
  | prepared _ hhistory hdone ih => exact ih.update hhistory hdone

/-- A lab with all its invariants is read from its text. -/
theorem Recordable.ofJson_print {l : Lab} (h : l.Recordable) :
    ofJson (Json.print l.toDefinition.toDatum) = .ok l := by
  have hdrawable : Drawable l.toDefinition.topology := h.drawable
  have htext := Json.read?_print (LabDefinition.printable_toDatum hdrawable)
  have hrecord := LabDefinition.ofDatum?_toDatum hdrawable
  simp only [ofJson, htext, Lab.ofDatum, hrecord]
  exact ofDefinition_toDefinition h.keyed h.routed h.booted

/-- **Records are read as they are written.** Every device is read from its record, be it the
    document or its text. Whatever is done in a lab that was loaded, from a text or from the
    catalog, the lab is read from the text of its definition. -/
theorem json_roundTrip :
    (∀ d : Device, Device.ofDatum? d.toDatum = some d ∧
      (Json.read? (Json.print d.toDatum)).bind Device.ofDatum? = some d) ∧
    ∀ l : Lab, l.Reachable → ofJson (Json.print l.toDefinition.toDatum) = .ok l :=
  ⟨fun d => ⟨d.ofDatum?_toDatum, d.read?_print⟩, fun _ h => h.recordable.ofJson_print⟩

/-- In a lab of the catalog an interface is switched off, which waits for a commit, and the policies
    of the firewall are taken away from outside. -/
theorem json_roundTrip_pending :
    ∃ made edited prepared : Lab,
      Catalog.lab "lab-instance-c" = .ok made ∧
      made.perform ⟨"dev-rtr", .edit (.interface "ge-0/0/0" (.up false))⟩ = .ok edited ∧
      edited.update "dev-fw" (fun d => { d with policies := [] }) = .ok prepared ∧
      ((prepared.devices.find? "dev-rtr").bind Device.candidate).isSome = true ∧
      ofJson (Json.print prepared.toDefinition.toDatum) = .ok prepared := by
  have hdecided : (Catalog.lab "lab-instance-c").toOption.any (fun made =>
      (made.perform ⟨"dev-rtr", .edit (.interface "ge-0/0/0" (.up false))⟩).toOption.any
        fun edited => (edited.update "dev-fw" fun d => { d with policies := [] }).toOption.any
          fun prepared => ((prepared.devices.find? "dev-rtr").bind Device.candidate).isSome) =
      true := by
    decide +kernel
  obtain ⟨made, hmade, hrest⟩ := exists_of_any_toOption hdecided
  obtain ⟨edited, hedited, hrest⟩ := exists_of_any_toOption hrest
  obtain ⟨prepared, hprepared, hpending⟩ := exists_of_any_toOption hrest
  have hkeeps : ∀ d : Device, d.history ≠ [] → { d with policies := [] }.history ≠ [] :=
    fun _ h => h
  exact ⟨made, edited, prepared, hmade, hedited, hprepared, hpending, json_roundTrip.2 prepared
    (.prepared (.performed (.loaded (.picked hmade)) hedited) hkeeps hprepared)⟩

end Lab

end TrainingLab
