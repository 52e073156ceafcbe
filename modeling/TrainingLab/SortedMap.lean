/-
  Finite maps as lists of entries in strictly ascending order of their keys. The order makes the
  list canonical: two maps with the same look-ups are equal (`SortedMap.ext_find?`), and listing a
  map needs no order of its own.
-/

namespace TrainingLab

universe u v

/-- The key of `a` comes before the key of `b`. -/
def keyBefore {κ : Type u} {α : Type v} [Ord κ] (a b : κ × α) : Prop := compare a.1 b.1 = .lt

/-- A map from `κ` to `α`, listed by ascending key. -/
structure SortedMap (κ : Type u) (α : Type v) [Ord κ] where
  entries : List (κ × α)
  sorted : entries.Pairwise keyBefore := by exact List.Pairwise.nil

namespace SortedMap

variable {κ : Type u} {α : Type v} [Ord κ]

instance [DecidableEq κ] [DecidableEq α] : DecidableEq (SortedMap κ α)
  | ⟨a, _⟩, ⟨b, _⟩ =>
    if h : a = b then isTrue (by cases h; rfl) else isFalse fun e => h (congrArg entries e)

/-! ## Entries -/

/-- The value at a key in a list of entries. -/
def lookup (k : κ) : List (κ × α) → Option α
  | [] => none
  | (k', v) :: rest =>
    match compare k k' with
    | .eq => some v
    | _ => lookup k rest

/-- Puts the value at its key, in order, in place of any value there. -/
def insertEntry (k : κ) (v : α) : List (κ × α) → List (κ × α)
  | [] => [(k, v)]
  | (k', v') :: rest =>
    match compare k k' with
    | .lt => (k, v) :: (k', v') :: rest
    | .eq => (k, v) :: rest
    | .gt => (k', v') :: insertEntry k v rest

/-- Drops the entry at the key. -/
def eraseEntry (k : κ) (l : List (κ × α)) : List (κ × α) := l.filter fun e => compare k e.1 != .eq

theorem lookup_eq_none {k : κ} {l : List (κ × α)} (h : ∀ e ∈ l, compare k e.1 ≠ .eq) :
    lookup k l = none := by
  induction l with
  | nil => rfl
  | cons x rest ih =>
    obtain ⟨k', v'⟩ := x
    have hk := h (k', v') List.mem_cons_self
    simp only [lookup]
    exact ih fun e he => h e (List.mem_cons_of_mem _ he)

theorem lookup_insertEntry [Std.LawfulEqOrd κ] [DecidableEq κ] (k k' : κ) (v : α) {l : List (κ × α)}
    (h : l.Pairwise keyBefore) :
    lookup k' (insertEntry k v l) = if k' = k then some v else lookup k' l := by
  induction l with
  | nil =>
    by_cases hk : k' = k
    · simp [insertEntry, lookup, hk]
    · have : compare k' k ≠ .eq := fun e => hk (Std.LawfulEqCmp.eq_of_compare e)
      simp only [insertEntry, lookup, hk, if_false]
  | cons x rest ih =>
    obtain ⟨a, b⟩ := x
    obtain ⟨hx, hr⟩ := List.pairwise_cons.mp h
    simp only [insertEntry]
    split
    next hlt =>
      by_cases hk : k' = k
      · simp [lookup, hk]
      · have : compare k' k ≠ .eq := fun e => hk (Std.LawfulEqCmp.eq_of_compare e)
        simp only [lookup, hk, if_false]
    next heq =>
      have ha : k = a := Std.LawfulEqCmp.eq_of_compare heq
      subst ha
      by_cases hk : k' = k
      · simp [lookup, hk]
      · have : compare k' k ≠ .eq := fun e => hk (Std.LawfulEqCmp.eq_of_compare e)
        simp only [lookup, hk, if_false]
    next hgt =>
      simp only [lookup, ih hr]
      split
      next he =>
        have : k' = a := Std.LawfulEqCmp.eq_of_compare he
        subst this
        have hne : k' ≠ k := fun e => by subst e; simp at hgt
        simp [hne]
      next => rfl

theorem lookup_eraseEntry [Std.LawfulEqOrd κ] [DecidableEq κ] (k k' : κ) (l : List (κ × α)) :
    lookup k' (eraseEntry k l) = if k' = k then none else lookup k' l := by
  induction l with
  | nil => simp [eraseEntry, lookup]
  | cons x rest ih =>
    obtain ⟨a, b⟩ := x
    by_cases ha : compare k a = .eq
    · have hka : k = a := Std.LawfulEqCmp.eq_of_compare ha
      subst hka
      have hd : eraseEntry k ((k, b) :: rest) = eraseEntry k rest := by
        simp [eraseEntry]
      rw [hd, ih]
      by_cases hk : k' = k
      · simp [hk]
      · have : compare k' k ≠ .eq := fun e => hk (Std.LawfulEqCmp.eq_of_compare e)
        simp only [hk, if_false, lookup]
    · have hd : eraseEntry k ((a, b) :: rest) = (a, b) :: eraseEntry k rest := by
        simp [eraseEntry, ha]
      rw [hd]
      simp only [lookup, ih]
      split
      next he =>
        have hk : k' = a := Std.LawfulEqCmp.eq_of_compare he
        subst hk
        have hne : k' ≠ k := fun e => by subst e; simp at ha
        simp [hne]
      next => rfl

theorem lookup_eq_some_iff [Std.LawfulEqOrd κ] {k : κ} {v : α} {l : List (κ × α)}
    (h : l.Pairwise keyBefore) : lookup k l = some v ↔ (k, v) ∈ l := by
  induction l with
  | nil => simp [lookup]
  | cons x rest ih =>
    obtain ⟨a, b⟩ := x
    obtain ⟨hx, hr⟩ := List.pairwise_cons.mp h
    simp only [lookup]
    split
    next he =>
      have hk : k = a := Std.LawfulEqCmp.eq_of_compare he
      subst hk
      constructor
      · intro e
        cases e
        exact List.mem_cons_self
      · intro hm
        rcases List.mem_cons.mp hm with e | hm
        · cases e; rfl
        · have := hx _ hm
          simp [keyBefore] at this
    next hne =>
      rw [ih hr]
      constructor
      · exact List.mem_cons_of_mem _
      · intro hm
        rcases List.mem_cons.mp hm with e | hm
        · cases e
          exact absurd Std.ReflCmp.compare_self hne
        · exact hm

theorem mem_insertEntry {k : κ} {v : α} {l : List (κ × α)} {e : κ × α}
    (h : e ∈ insertEntry k v l) : e = (k, v) ∨ e ∈ l := by
  induction l with
  | nil => exact Or.inl (List.mem_singleton.mp h)
  | cons x rest ih =>
    obtain ⟨k', v'⟩ := x
    simp only [insertEntry] at h
    split at h
    · rcases List.mem_cons.mp h with h | h
      · exact Or.inl h
      · exact Or.inr h
    · rcases List.mem_cons.mp h with h | h
      · exact Or.inl h
      · exact Or.inr (List.mem_cons_of_mem _ h)
    · rcases List.mem_cons.mp h with h | h
      · exact Or.inr (h ▸ List.mem_cons_self)
      · rcases ih h with h | h
        · exact Or.inl h
        · exact Or.inr (List.mem_cons_of_mem _ h)

theorem insertEntry_sorted [Std.TransOrd κ] (k : κ) (v : α) {l : List (κ × α)}
    (h : l.Pairwise keyBefore) : (insertEntry k v l).Pairwise keyBefore := by
  induction l with
  | nil => exact List.pairwise_singleton _ _
  | cons x rest ih =>
    obtain ⟨k', v'⟩ := x
    obtain ⟨hx, hr⟩ := List.pairwise_cons.mp h
    simp only [insertEntry]
    split
    next hlt =>
      refine List.pairwise_cons.mpr ⟨fun e he => ?_, h⟩
      rcases List.mem_cons.mp he with he | he
      · exact he ▸ hlt
      · exact Std.TransCmp.lt_trans hlt (hx e he)
    next heq =>
      exact List.pairwise_cons.mpr ⟨fun e he => Std.TransCmp.lt_of_eq_of_lt heq (hx e he), hr⟩
    next hgt =>
      refine List.pairwise_cons.mpr ⟨fun e he => ?_, ih hr⟩
      rcases mem_insertEntry he with he | he
      · subst he
        exact Std.OrientedCmp.lt_of_gt hgt
      · exact hx e he

/-! ## Maps -/

/-- The map without entries. -/
def empty : SortedMap κ α := { entries := [] }

instance : Inhabited (SortedMap κ α) := ⟨empty⟩

/-- The value at a key. -/
def find? (m : SortedMap κ α) (k : κ) : Option α := lookup k m.entries

/-- The key has a value. -/
def contains (m : SortedMap κ α) (k : κ) : Bool := (m.find? k).isSome

/-- The keys in ascending order. -/
def keys (m : SortedMap κ α) : List κ := m.entries.map Prod.fst

/-- The values in ascending order of their keys. -/
def values (m : SortedMap κ α) : List α := m.entries.map Prod.snd

/-- The number of entries. -/
def size (m : SortedMap κ α) : Nat := m.entries.length

/-- The map has no entries. -/
def isEmpty (m : SortedMap κ α) : Bool := m.entries.isEmpty

/-- The map without the key. -/
def erase (m : SortedMap κ α) (k : κ) : SortedMap κ α :=
  { entries := eraseEntry k m.entries, sorted := m.sorted.filter _ }

@[simp] theorem find?_empty (k : κ) : (empty : SortedMap κ α).find? k = none := rfl

@[simp] theorem find?_erase [Std.LawfulEqOrd κ] [DecidableEq κ] (m : SortedMap κ α) (k k' : κ) :
    (m.erase k).find? k' = if k' = k then none else m.find? k' :=
  lookup_eraseEntry k k' m.entries

/-- An entry of the map is a key with its value. -/
theorem mem_entries_iff [Std.LawfulEqOrd κ] {m : SortedMap κ α} {k : κ} {v : α} :
    (k, v) ∈ m.entries ↔ m.find? k = some v :=
  (lookup_eq_some_iff m.sorted).symm

variable [Std.TransOrd κ]

/-- The map with the value at the key, whatever was there before. -/
def insert (m : SortedMap κ α) (k : κ) (v : α) : SortedMap κ α :=
  { entries := insertEntry k v m.entries, sorted := insertEntry_sorted k v m.sorted }

/-- The map with all the entries put in one after the other. -/
def insertAll (m : SortedMap κ α) (entries : List (κ × α)) : SortedMap κ α :=
  entries.foldl (fun m e => m.insert e.1 e.2) m

/-- The map without any of the keys. -/
def eraseAll (m : SortedMap κ α) (ks : List κ) : SortedMap κ α := ks.foldl erase m

/-- The map of a list of entries; of two entries with one key, the later counts. -/
def ofList (entries : List (κ × α)) : SortedMap κ α := empty.insertAll entries

@[simp] theorem find?_insert [Std.LawfulEqOrd κ] [DecidableEq κ] (m : SortedMap κ α) (k k' : κ)
    (v : α) : (m.insert k v).find? k' = if k' = k then some v else m.find? k' :=
  lookup_insertEntry k k' v m.sorted

/-! ## Extensionality -/

theorem entries_ext [Std.LawfulEqOrd κ] {l l' : List (κ × α)} (h : l.Pairwise keyBefore)
    (h' : l'.Pairwise keyBefore) (e : ∀ x, x ∈ l ↔ x ∈ l') : l = l' := by
  induction l generalizing l' with
  | nil =>
    cases l' with
    | nil => rfl
    | cons y _ => exact absurd ((e y).mpr List.mem_cons_self) List.not_mem_nil
  | cons x rest ih =>
    cases l' with
    | nil => exact absurd ((e x).mp List.mem_cons_self) List.not_mem_nil
    | cons y rest' =>
      obtain ⟨hx, hr⟩ := List.pairwise_cons.mp h
      obtain ⟨hy, hr'⟩ := List.pairwise_cons.mp h'
      have hxy : x = y := by
        rcases List.mem_cons.mp ((e x).mp List.mem_cons_self) with hm | hm
        · exact hm
        · rcases List.mem_cons.mp ((e y).mpr List.mem_cons_self) with hm' | hm'
          · exact hm'.symm
          · have h1 : compare y.1 x.1 = .lt := hy x hm
            have h2 : compare x.1 y.1 = .lt := hx y hm'
            rw [@Std.OrientedCmp.eq_swap _ compare _ x.1 y.1, h1] at h2
            cases h2
      subst hxy
      have tails : ∀ z, z ∈ rest ↔ z ∈ rest' := by
        intro z
        constructor
        · intro hz
          rcases List.mem_cons.mp ((e z).mp (List.mem_cons_of_mem _ hz)) with hm | hm
          · subst hm
            have := hx z hz
            simp [keyBefore] at this
          · exact hm
        · intro hz
          rcases List.mem_cons.mp ((e z).mpr (List.mem_cons_of_mem _ hz)) with hm | hm
          · subst hm
            have := hy z hz
            simp [keyBefore] at this
          · exact hm
      rw [ih hr hr' tails]

/-- Maps with the same look-ups are equal. -/
theorem ext_find? [Std.LawfulEqOrd κ] {m m' : SortedMap κ α} (h : ∀ k, m.find? k = m'.find? k) :
    m = m' := by
  have : m.entries = m'.entries := by
    refine entries_ext m.sorted m'.sorted fun x => ?_
    obtain ⟨k, v⟩ := x
    rw [mem_entries_iff, mem_entries_iff, h k]
  cases m
  cases m'
  cases this
  rfl

end SortedMap

end TrainingLab
