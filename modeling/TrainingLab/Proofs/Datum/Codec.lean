import TrainingLab.Datum.Basic

/-
  Parts of a document are read as the values that were written. A record is written with a field
  for each value that is there, in any order, and read by the names of its fields; so it gives its
  values back if no two fields have one name and only fields that may be left out are (`Written`).
-/

namespace TrainingLab.Datum

variable {α : Type} {read : Datum → Option α} {write : α → Datum}

/-! ## Plain values -/

theorem natBelow?_ofNat {bound n : Nat} (h : n < bound) : (ofNat n).natBelow? bound = some n := by
  have hrange : (0 : Int) ≤ (n : Int) ∧ (n : Int) < bound := by omega
  rw [ofNat, natBelow?, if_pos hrange, Int.toNat_natCast]

theorem uint16?_ofNat (n : UInt16) : (ofNat n.toNat).uint16? = some n := by
  rw [uint16?, natBelow?_ofNat n.toNat_lt_size, Option.map_some, UInt16.ofNat_toNat]

theorem uint32?_ofNat (n : UInt32) : (ofNat n.toNat).uint32? = some n := by
  rw [uint32?, natBelow?_ofNat n.toNat_lt_size, Option.map_some, UInt32.ofNat_toNat]

theorem required_uint32 (n : UInt32) : required (some (ofNat n.toNat)) uint32? = some n := by
  rw [required, Option.bind_some, uint32?_ofNat]

/-- A value that is written as something is told from nothing. -/
theorem optional?_write (hwrite : ∀ a, write a ≠ null) (hread : ∀ a, read (write a) = some a)
    (a : α) : optional? read (write a) = some (some a) := by
  unfold optional?
  split
  next hnull => exact absurd hnull (hwrite a)
  next => rw [hread a, Option.map_some]

/-- A field that is left out where there is no value. -/
theorem omissible_map (hwrite : ∀ a, write a ≠ null) (hread : ∀ a, read (write a) = some a)
    (o : Option α) : omissible (o.map write) read = some o := by
  cases o with
  | none => rfl
  | some a => exact optional?_write hwrite hread a

/-- A field that is nothing where there is no value. -/
theorem omissible_ofOption (hwrite : ∀ a, write a ≠ null) (hread : ∀ a, read (write a) = some a)
    (o : Option α) : omissible (some (ofOption write o)) read = some o := by
  cases o with
  | none => rfl
  | some a => exact optional?_write hwrite hread a

theorem omissible_text (o : Option String) : omissible (o.map text) text? = some o := by
  cases o with
  | none => rfl
  | some s => rfl

theorem omissible_uint16 (o : Option UInt16) :
    omissible (o.map fun n => ofNat n.toNat) uint16? = some o := by
  refine omissible_map (fun _ hnull => ?_) uint16?_ofNat o
  cases hnull

theorem omissible_uint32 (o : Option UInt32) :
    omissible (o.map fun n => ofNat n.toNat) uint32? = some o := by
  refine omissible_map (fun _ hnull => ?_) uint32?_ofNat o
  cases hnull

/-! ## Lists and maps -/

theorem mapM_map {β : Type} {f : β → Option α} {g : α → β} {l : List α}
    (h : ∀ a ∈ l, f (g a) = some a) : (l.map g).mapM f = some l := by
  induction l with
  | nil => rfl
  | cons a rest ih =>
    obtain ⟨ha, hrest⟩ := List.forall_mem_cons.mp h
    rw [List.map_cons, List.mapM_cons, ha, ih hrest]
    rfl

theorem list?_map {l : List α} (h : ∀ a ∈ l, read (write a) = some a) :
    list? read (list (l.map write)) = some l :=
  mapM_map h

theorem list?_ofTexts (l : List String) : list? text? (ofTexts l) = some l :=
  list?_map fun _ _ => rfl

theorem entries?_map (h : ∀ a, read (write a) = some a) (l : List (String × α)) (plain : Bool) :
    entries? read (record (l.map fun (name, a) => (name, write a)) plain) = some l := by
  refine mapM_map fun (name, a) _ => ?_
  dsimp only
  rw [h a, Option.map_some]

theorem numbered?_map {ι : Type} {ofName? : String → Option ι} {name : ι → String}
    (hname : ∀ i, ofName? (name i) = some i) (h : ∀ a, read (write a) = some a)
    (l : List (ι × α)) :
    numbered? ofName? read (record (l.map fun (i, a) => (name i, write a))) = some l := by
  refine mapM_map fun (i, a) _ => ?_
  dsimp only
  rw [hname i, Option.bind_some, h a, Option.map_some]

/-! ## Fields -/

theorem single?_of_not_mem {name : String} {fields : List (String × Datum)}
    (h : name ∉ fields.map Prod.fst) : single? name fields = some none := by
  induction fields with
  | nil => rfl
  | cons field rest ih =>
    obtain ⟨hne, hrest⟩ := not_or.mp (mt List.mem_cons.mpr h)
    rw [single?, if_neg (Ne.symm hne), ih hrest]

/-- If no two fields have one name, each is found under its own. -/
theorem single?_of_mem {name : String} {d : Datum} {fields : List (String × Datum)}
    (hdistinct : (fields.map Prod.fst).Nodup) (h : (name, d) ∈ fields) :
    single? name fields = some (some d) := by
  induction fields with
  | nil => cases h
  | cons field rest ih =>
    obtain ⟨hnew, hrest⟩ := List.nodup_cons.mp hdistinct
    rcases List.mem_cons.mp h with rfl | hmem
    · have honce : (rest.any fun e => e.1 == name) = false := by
        rw [List.any_eq_false]
        intro e he heq
        exact hnew (List.mem_map.mpr ⟨e, he, by simpa using heq⟩)
      rw [single?, if_pos rfl, honce, if_neg Bool.false_ne_true]
    · have hne : field.1 ≠ name := by
        intro heq
        exact hnew (List.mem_map.mpr ⟨(name, d), hmem, heq.symm⟩)
      rw [single?, if_neg hne, ih hrest hmem]

/-- The fields of a kind of record, their values, and what is written of them, in order. -/
inductive Written : List Field → List (Option Datum) → List (String × Datum) → Prop
  | nil : Written [] [] []
  | present {fields : List Field} {values : List (Option Datum)} {given : List (String × Datum)}
      (f : Field) (d : Datum) (rest : Written fields values given) :
      Written (f :: fields) (some d :: values) ((f.name, d) :: given)
  | omitted {fields : List Field} {values : List (Option Datum)} {given : List (String × Datum)}
      (f : Field) (h : f.omission ≠ .never) (rest : Written fields values given) :
      Written (f :: fields) (none :: values) given

namespace Written

variable {fields : List Field} {values : List (Option Datum)} {given all : List (String × Datum)}

/-- A field that is left out where there is no value. -/
theorem optional (f : Field) (h : f.omission ≠ .never) (o : Option α)
    (rest : Written fields values given) :
    Written (f :: fields) (o.map write :: values) (ifPresent f.name write o ++ given) := by
  cases o with
  | none => exact .omitted f h rest
  | some a => exact .present f (write a) rest

theorem sublist (h : Written fields values given) :
    (given.map Prod.fst).Sublist (fields.map Field.name) := by
  induction h with
  | nil => exact .slnil
  | present f d _ ih => exact ih.cons_cons f.name
  | omitted f _ _ ih => exact ih.cons f.name

/-- The values are found in any record that has the same fields of these names. -/
theorem mapM_namedField? (h : Written fields values given)
    (hnames : (fields.map Field.name).Nodup) (hdistinct : (all.map Prod.fst).Nodup)
    (hall : ∀ f ∈ fields, ∀ d, (f.name, d) ∈ all ↔ (f.name, d) ∈ given) :
    fields.mapM (namedField? all) = some values := by
  induction h with
  | nil => rfl
  | present f d rest ih =>
    obtain ⟨hnew, hrest⟩ := List.nodup_cons.mp hnames
    obtain ⟨hfirst, hothers⟩ := List.forall_mem_cons.mp hall
    have hmem := (hfirst d).mpr List.mem_cons_self
    have htail := ih hrest fun f' hf' d' => by
      rw [hothers f' hf' d', List.mem_cons, or_iff_right]
      intro heq
      exact hnew (List.mem_map.mpr ⟨f', hf', congrArg Prod.fst heq⟩)
    rw [List.mapM_cons, namedField?, single?_of_mem hdistinct hmem, htail]
    rfl
  | omitted f hf rest ih =>
    obtain ⟨hnew, hrest⟩ := List.nodup_cons.mp hnames
    obtain ⟨hfirst, hothers⟩ := List.forall_mem_cons.mp hall
    have hnone : f.name ∉ all.map Prod.fst := by
      intro hmem
      obtain ⟨⟨name, d⟩, hd, rfl⟩ := List.mem_map.mp hmem
      have hgiven := List.mem_map_of_mem (f := Prod.fst) ((hfirst d).mp hd)
      exact hnew (rest.sublist.subset hgiven)
    rw [List.mapM_cons, namedField?, single?_of_not_mem hnone, ih hrest hothers]
    simp only [if_neg hf]
    rfl

/-- **Records.** What is written of the fields gives their values back, in whatever order. -/
theorem fieldValues? (h : Written fields values given) (hnames : (fields.map Field.name).Nodup)
    (hall : all.Perm given) (plain : Bool) :
    Datum.fieldValues? fields (record all plain) = some values := by
  have hdistinct : (all.map Prod.fst).Nodup :=
    (hall.map Prod.fst).nodup_iff.mpr (h.sublist.nodup hnames)
  exact h.mapM_namedField? hnames hdistinct fun _ _ _ => hall.mem_iff

end Written

end TrainingLab.Datum
