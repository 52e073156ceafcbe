import TrainingLab.SortedMap

/-
  Look-ups in maps after many entries have been put in or taken out at once or all values have been
  changed, and the keys of a map as a set.
-/

namespace TrainingLab.SortedMap

universe u v

variable {κ : Type u} {α : Type v} [Ord κ]

/-! ## Changed values -/

theorem contains_eq_false_iff {m : SortedMap κ α} {k : κ} :
    m.contains k = false ↔ m.find? k = none := by
  unfold contains
  cases m.find? k <;> simp

theorem contains_of_find? {m : SortedMap κ α} {k : κ} {v : α} (h : m.find? k = some v) :
    m.contains k = true := by
  rw [contains, h]
  rfl

/-- A key that comes before all entries has no value among them. -/
theorem lookup_eq_none_of_before {k : κ} {l : List (κ × α)}
    (h : ∀ e ∈ l, compare k e.1 = .lt) : lookup k l = none :=
  lookup_eq_none fun e he => by rw [h e he]; decide

variable [Std.LawfulEqOrd κ]

theorem mem_keys_iff {m : SortedMap κ α} {k : κ} : k ∈ m.keys ↔ m.contains k = true := by
  unfold keys contains
  constructor
  · intro h
    obtain ⟨⟨a, v⟩, hm, rfl⟩ := List.mem_map.mp h
    rw [mem_entries_iff.mp hm]
    rfl
  · intro h
    obtain ⟨v, hv⟩ := Option.isSome_iff_exists.mp h
    exact List.mem_map.mpr ⟨(k, v), mem_entries_iff.mpr hv, rfl⟩

/-- No key has two entries. -/
theorem nodup_keys (m : SortedMap κ α) : m.keys.Nodup := by
  refine List.pairwise_map.mpr (m.sorted.imp fun {a b} hbefore heq => ?_)
  have hsame : compare a.1 b.1 = .eq := Std.LawfulEqCmp.compare_eq_iff_eq.mpr heq
  exact absurd (hsame.symm.trans hbefore) (by decide)

/-- Where keys are distinct, a key picks one element. -/
theorem filter_key_eq {β γ : Type} [BEq γ] [LawfulBEq γ] {key : β → γ} {l : List β}
    (h : (l.map key).Nodup) {x : β} (hx : x ∈ l) : l.filter (fun y => key x == key y) = [x] := by
  induction l with
  | nil => cases hx
  | cons y rest ih =>
    obtain ⟨hy, hrest⟩ := List.nodup_cons.mp h
    rcases List.mem_cons.mp hx with rfl | hx
    · have hnone : rest.filter (fun z => key x == key z) = [] := by
        rw [List.filter_eq_nil_iff]
        intro z hz hkey
        exact hy (beq_iff_eq.mp hkey ▸ List.mem_map_of_mem hz)
      simp only [List.filter_cons, beq_self_eq_true, if_true, hnone]
    · have hne : (key x == key y) = false := by
        rw [beq_eq_false_iff_ne]
        exact fun hkey => hy (hkey ▸ List.mem_map_of_mem hx)
      simp only [List.filter_cons, hne, Bool.false_eq_true, if_false, ih hrest hx]

theorem map_fst_insertEntry [Std.TransOrd κ] {k : κ} (v : α) {l : List (κ × α)}
    (hs : (lookup k l).isSome = true) (hl : l.Pairwise keyBefore) :
    (insertEntry k v l).map Prod.fst = l.map Prod.fst := by
  induction l with
  | nil => simp [lookup] at hs
  | cons e rest ih =>
    obtain ⟨a, w⟩ := e
    obtain ⟨hfirst, hrest⟩ := List.pairwise_cons.mp hl
    cases hc : compare k a with
    | lt =>
      have hnone : lookup k rest = none :=
        lookup_eq_none_of_before fun e he => Std.TransCmp.lt_trans hc (hfirst e he)
      simp [lookup, hc, hnone] at hs
    | eq =>
      have : k = a := Std.LawfulEqCmp.eq_of_compare hc
      simp [insertEntry, this]
    | gt =>
      have hs' : (lookup k rest).isSome = true := by simpa [lookup, hc] using hs
      simp [insertEntry, hc, ih hs' hrest]

/-- A new value at a key of the map leaves the keys as they are. -/
theorem keys_insert_of_contains [Std.TransOrd κ] {m : SortedMap κ α} {k : κ} (v : α)
    (h : m.contains k = true) : (m.insert k v).keys = m.keys :=
  map_fst_insertEntry v h m.sorted

variable [DecidableEq κ]

@[simp] theorem contains_erase (m : SortedMap κ α) (k k' : κ) :
    (m.erase k).contains k' = if k' = k then false else m.contains k' := by
  unfold contains
  rw [find?_erase]
  split <;> rfl

@[simp] theorem contains_insert [Std.TransOrd κ] (m : SortedMap κ α) (k k' : κ) (v : α) :
    (m.insert k v).contains k' = if k' = k then true else m.contains k' := by
  unfold contains
  rw [find?_insert]
  split <;> rfl

/-- A key that has been taken out is not there to be taken out again. -/
theorem erase_erase [Std.TransOrd κ] (m : SortedMap κ α) (k : κ) :
    (m.erase k).erase k = m.erase k := by
  refine ext_find? fun k' => ?_
  rw [find?_erase, find?_erase]
  split <;> rfl

/-- A key that was not there is taken out again. -/
theorem erase_insert [Std.TransOrd κ] {m : SortedMap κ α} {k : κ} (h : m.find? k = none) (v : α) :
    (m.insert k v).erase k = m := by
  refine ext_find? fun k' => ?_
  rw [find?_erase, find?_insert]
  by_cases hk : k' = k
  · simp [hk, h]
  · simp [hk]

/-- Of two values put at one key the later counts. -/
theorem insert_insert [Std.TransOrd κ] (m : SortedMap κ α) (k : κ) (v v' : α) :
    (m.insert k v).insert k v' = m.insert k v' := by
  refine ext_find? fun k' => ?_
  rw [find?_insert, find?_insert, find?_insert]
  split <;> rfl

/-! ## Bulk operations -/

/-- What is left after some keys have been taken out. -/
theorem find?_eraseAll (m : SortedMap κ α) (ks : List κ) (k : κ) :
    (m.eraseAll ks).find? k = if k ∈ ks then none else m.find? k := by
  induction ks generalizing m with
  | nil => simp [eraseAll]
  | cons a rest ih =>
    have step : m.eraseAll (a :: rest) = (m.erase a).eraseAll rest := rfl
    rw [step, ih, find?_erase]
    by_cases ha : k = a
    · simp [ha]
    · simp [ha]

theorem lookup_cons_of_sorted (k a : κ) (v : α) {rest : List (κ × α)}
    (h : ((a, v) :: rest).Pairwise keyBefore) :
    lookup k ((a, v) :: rest) = (lookup k rest).or (if k = a then some v else none) := by
  obtain ⟨hfirst, _⟩ := List.pairwise_cons.mp h
  by_cases hk : k = a
  · subst hk
    simp [lookup, lookup_eq_none_of_before (k := k) hfirst]
  · have hne : compare k a ≠ .eq := fun e => hk (Std.LawfulEqCmp.eq_of_compare e)
    simp only [lookup, hk, if_false, Option.or_none]

variable [Std.TransOrd κ]

theorem find?_insertAll_list (m : SortedMap κ α) {l : List (κ × α)} (h : l.Pairwise keyBefore)
    (k : κ) : (m.insertAll l).find? k = (lookup k l).or (m.find? k) := by
  induction l generalizing m with
  | nil => rfl
  | cons e rest ih =>
    obtain ⟨a, v⟩ := e
    have hrest := (List.pairwise_cons.mp h).2
    have step : m.insertAll ((a, v) :: rest) = (m.insert a v).insertAll rest := rfl
    rw [step, ih _ hrest, find?_insert, lookup_cons_of_sorted k a v h]
    cases lookup k rest with
    | some w => rfl
    | none =>
      by_cases hk : k = a
      · simp [hk]
      · simp [hk]

/-- The entries of another map take precedence when they are put in. -/
theorem find?_insertAll (m m' : SortedMap κ α) (k : κ) :
    (m.insertAll m'.entries).find? k = (m'.find? k).or (m.find? k) :=
  find?_insertAll_list m m'.sorted k

/-- A map is made of its entries. -/
theorem insertAll_entries (m : SortedMap κ α) : empty.insertAll m.entries = m := by
  refine ext_find? fun k => ?_
  rw [find?_insertAll, find?_empty, Option.or_none]

/-- Entries in ascending order are listed as they are put in. -/
theorem entries_ofList {l : List (κ × α)}
    (h : (l.map Prod.fst).Pairwise fun a b => compare a b = .lt) : (ofList l).entries = l := by
  have hsorted : l.Pairwise keyBefore := by
    rw [List.pairwise_map] at h
    exact h
  exact congrArg entries (insertAll_entries ⟨l, hsorted⟩)

/-- Entries with distinct keys are all held. -/
theorem find?_insertAll_iff (m : SortedMap κ α) {l : List (κ × α)} (h : (l.map Prod.fst).Nodup)
    {k : κ} {v : α} :
    (m.insertAll l).find? k = some v ↔
      (k, v) ∈ l ∨ (k ∉ l.map Prod.fst ∧ m.find? k = some v) := by
  induction l generalizing m with
  | nil => simp [insertAll]
  | cons e rest ih =>
    obtain ⟨a, w⟩ := e
    have ha : a ∉ rest.map Prod.fst := (List.nodup_cons.mp h).1
    have step : m.insertAll ((a, w) :: rest) = (m.insert a w).insertAll rest := rfl
    rw [step, ih _ (List.nodup_cons.mp h).2, find?_insert]
    by_cases hk : k = a
    · subst hk
      have hv : (k, v) ∉ rest := fun hm => ha (List.mem_map_of_mem hm)
      simp only [List.mem_cons, Prod.mk.injEq, hv, ha, List.map_cons, true_and, or_false,
        false_or, not_false_eq_true, if_true, not_true_eq_false, false_and, Option.some.injEq]
      exact eq_comm
    · simp [hk]

/-- A map made of entries with distinct keys holds these entries. -/
theorem find?_ofList_iff {l : List (κ × α)} (h : (l.map Prod.fst).Nodup) {k : κ} {v : α} :
    (ofList l).find? k = some v ↔ (k, v) ∈ l := by
  rw [ofList, find?_insertAll_iff empty h]
  simp

theorem contains_insertAll_iff {m : SortedMap κ α} {l : List (κ × α)} {k : κ} :
    (m.insertAll l).contains k = true ↔ k ∈ l.map Prod.fst ∨ m.contains k = true := by
  induction l generalizing m with
  | nil => simp [insertAll]
  | cons e rest ih =>
    have hfirst : (m.insert e.1 e.2).contains k = true ↔ k = e.1 ∨ m.contains k = true := by
      unfold contains
      rw [find?_insert]
      split
      next heq => simp [heq]
      next hne => simp [hne]
    rw [insertAll, List.foldl_cons, ← insertAll, ih, hfirst, List.map_cons, List.mem_cons,
      or_left_comm, or_assoc]

/-- The keys of a map are those of the entries it is made of. -/
theorem mem_keys_ofList_iff {l : List (κ × α)} {k : κ} :
    k ∈ (ofList l).keys ↔ k ∈ l.map Prod.fst := by
  rw [mem_keys_iff, ofList, contains_insertAll_iff]
  exact or_iff_left (by simp [contains])

end TrainingLab.SortedMap
