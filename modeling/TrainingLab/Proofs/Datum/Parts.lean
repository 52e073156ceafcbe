import TrainingLab.Datum.Basic

/-
  What holds of every part of a document. An induction over a document goes by way of such a
  predicate: it is shown for a document if it can be shown from the same for its items or fields.
  What holds of every part also holds of what a list or a record is read from.

  Proved:
  * `exists_of_list?`: the values of a list are read from its items.
  * `mem_of_fieldValues?`: the values of the fields are parts of the record.
-/

namespace TrainingLab.Datum

/-- The documents that a document is made of directly. -/
def children : Datum → List Datum
  | list items => items
  | record fields _ => fields.map Prod.snd
  | _ => []

/-- The document and every part of it is of the kind. -/
inductive Every (P : Datum → Prop) : Datum → Prop
  | intro {d : Datum} (whole : P d) (parts : ∀ c ∈ d.children, Every P c) : Every P d

namespace Every

variable {P : Datum → Prop} {d : Datum}

theorem whole (h : Every P d) : P d := by
  cases h with
  | intro whole _ => exact whole

theorem parts (h : Every P d) : ∀ c ∈ d.children, Every P c := by
  cases h with
  | intro _ parts => exact parts

theorem leaf (h : P d) (hleaf : d.children = []) : Every P d := by
  refine .intro h fun c hc => ?_
  rw [hleaf] at hc
  cases hc

theorem list {items : List Datum} (h : P (.list items)) (hitems : ∀ d ∈ items, Every P d) :
    Every P (.list items) :=
  .intro h hitems

theorem record {fields : List (String × Datum)} {plain : Bool} (h : P (.record fields plain))
    (hfields : ∀ e ∈ fields, Every P e.2) : Every P (.record fields plain) := by
  refine .intro h fun c hc => ?_
  obtain ⟨e, he, rfl⟩ := List.mem_map.mp hc
  exact hfields e he

end Every

/-! ## What is read -/

theorem exists_of_mem_mapM {α β : Type} {f : α → Option β} {l : List α} {r : List β}
    (h : l.mapM f = some r) : ∀ b ∈ r, ∃ a ∈ l, f a = some b := by
  induction l generalizing r with
  | nil =>
    cases h
    exact List.forall_mem_nil _
  | cons a l ih =>
    rw [List.mapM_cons] at h
    obtain ⟨b, hb, h⟩ := Option.bind_eq_some_iff.mp h
    obtain ⟨others, hothers, h⟩ := Option.bind_eq_some_iff.mp h
    cases h
    refine List.forall_mem_cons.mpr ⟨⟨a, List.mem_cons_self, hb⟩, fun b' hb' => ?_⟩
    obtain ⟨a', ha', hfa⟩ := ih hothers b' hb'
    exact ⟨a', List.mem_cons_of_mem _ ha', hfa⟩

/-- The values of a list are read from its items. -/
theorem exists_of_list? {α : Type} {read : Datum → Option α} {d : Datum} {l : List α}
    (h : list? read d = some l) : ∀ a ∈ l, ∃ c ∈ d.children, read c = some a := by
  unfold list? at h
  split at h
  next => exact exists_of_mem_mapM h
  next => cases h

theorem mem_of_single? {name : String} {fields : List (String × Datum)} {d : Datum}
    (h : single? name fields = some (some d)) : (name, d) ∈ fields := by
  induction fields with
  | nil => cases h
  | cons field rest ih =>
    rw [single?] at h
    split at h
    next hname =>
      split at h
      next => cases h
      next =>
        cases h
        exact hname ▸ List.mem_cons_self
    next => exact List.mem_cons_of_mem _ (ih h)

theorem mem_of_placedFields? {fields : List Field} {items : List Datum}
    {values : List (Option Datum)} (h : placedFields? fields items = some values) :
    ∀ d, some d ∈ values → d ∈ items := by
  induction fields generalizing items values with
  | nil =>
    cases items with
    | nil =>
      cases h
      exact fun _ hd => nomatch hd
    | cons _ _ => cases h
  | cons f fields ih =>
    intro d hd
    cases items with
    | nil =>
      rw [placedFields?] at h
      split at h
      next =>
        obtain ⟨others, hothers, rfl⟩ := Option.map_eq_some_iff.mp h
        exact ih hothers d (List.mem_of_ne_of_mem (Option.some_ne_none d) hd)
      next => cases h
    | cons item items =>
      obtain ⟨others, hothers, rfl⟩ := Option.map_eq_some_iff.mp h
      rcases List.mem_cons.mp hd with heq | hmem
      · cases heq
        exact List.mem_cons_self
      · exact List.mem_cons_of_mem _ (ih hothers d hmem)

/-- The values of the fields are parts of the record. -/
theorem mem_of_fieldValues? {fields : List Field} {d c : Datum} {values : List (Option Datum)}
    (h : fieldValues? fields d = some values) (hc : some c ∈ values) : c ∈ d.children := by
  unfold fieldValues? at h
  split at h
  next given _ =>
    obtain ⟨f, _, hf⟩ := exists_of_mem_mapM h _ hc
    have hsingle : single? f.name given = some (some c) := by
      unfold namedField? at hf
      split at hf
      next => split at hf <;> cases hf
      next => exact hf
    exact List.mem_map_of_mem (f := Prod.snd) (mem_of_single? hsingle)
  next => exact mem_of_placedFields? h c hc
  next => cases h

end TrainingLab.Datum
