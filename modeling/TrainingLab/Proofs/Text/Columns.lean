import TrainingLab.Proofs.Text.Words

/-
  Reading tables back. A cell that is one word is found as this word in its row, however wide its
  column is, and a list with commas in the last column gives its items when the commas are dropped.

  Proved:
  * `words_columns`: the words of a row.
  * `items_joinWith`: the items of a list.
  * `feed_not_mem_columns`, `feed_not_mem_joinWith`: cells and items of one line make one line.
-/

namespace TrainingLab.Text

/-! ## Columns -/

/-- Blanks behind a text do not matter for its words. -/
theorem words_append_blanks (s : String) (n : Nat) :
    words (s ++ String.ofList (List.replicate n ' ')) = words s := by
  induction n with
  | zero => rw [List.replicate_zero, String.ofList_nil, String.append_empty]
  | succ n ih =>
    have hlast : s ++ String.ofList (List.replicate (n + 1) ' ') =
        s ++ String.ofList (List.replicate n ' ') ++ " " := by
      rw [← String.toList_inj]
      simp [List.replicate_succ']
    rw [hlast, words_append_space, ih]

/-- The words of a row are its cells, if these are words, and then those of the last column. -/
theorem words_columns {cells : List (Nat × String)} (h : ∀ cell ∈ cells, IsWord cell.2)
    (last : String) : words (columns cells last) = cells.map Prod.snd ++ words last := by
  induction cells with
  | nil => rfl
  | cons cell cells ih =>
    obtain ⟨hcell, hcells⟩ := List.forall_mem_cons.mp h
    have hrow : columns (cell :: cells) last =
        padRight cell.1 cell.2 ++ " " ++ columns cells last := rfl
    have hspace : (padRight cell.1 cell.2 ++ " ").toList.getLast? = some ' ' := getLast?_append rfl
    rw [hrow, words_append_of_blank hspace (by decide), words_append_space, padRight,
      words_append_blanks, hcell.words_eq, ih hcells]
    rfl

theorem feed_not_mem_columns {cells : List (Nat × String)}
    (h : ∀ cell ∈ cells, '\n' ∉ cell.2.toList) {last : String} (hlast : '\n' ∉ last.toList) :
    '\n' ∉ (columns cells last).toList := by
  induction cells with
  | nil => exact hlast
  | cons cell cells ih =>
    obtain ⟨hcell, hcells⟩ := List.forall_mem_cons.mp h
    have hblanks : '\n' ∉ List.replicate (cell.1 - cell.2.length) ' ' := by
      simp [List.mem_replicate]
    have hpadded : '\n' ∉ (padRight cell.1 cell.2).toList :=
      feed_not_mem_append hcell (feed_not_mem_ofList hblanks)
    exact feed_not_mem_append (feed_not_mem_append hpadded (by decide)) (ih hcells)

/-! ## Lists -/

/-- The words without the commas behind all but the last one. -/
def withoutCommas : List String → List String
  | w :: v :: rest => String.ofList w.toList.dropLast :: withoutCommas (v :: rest)
  | ws => ws

/-- The items of a list with commas. -/
def items (s : String) : List String := withoutCommas (words s)

theorem words_joinWith_commas {s t : String} {rest : List String} (hs : IsWord s) :
    words (joinWith ", " (s :: t :: rest)) = (s ++ ",") :: words (joinWith ", " (t :: rest)) := by
  have hcomma : joinWith ", " (s :: t :: rest) = s ++ "," ++ " " ++ joinWith ", " (t :: rest) := by
    rw [joinWith, ← String.toList_inj]
    simp
  have hspace : (s ++ "," ++ " ").toList.getLast? = some ' ' := getLast?_append rfl
  have hword : IsWord (s ++ ",") := by
    refine ⟨hs.1.append (by decide), fun hempty => ?_⟩
    exact hs.2 (String.append_eq_empty_iff.mp hempty).1
  rw [hcomma, words_append_of_blank hspace (by decide), words_append_space, hword.words_eq]
  rfl

theorem feed_not_mem_joinWith {separator : String} (hseparator : '\n' ∉ separator.toList)
    {ws : List String} (h : ∀ w ∈ ws, '\n' ∉ w.toList) :
    '\n' ∉ (joinWith separator ws).toList := by
  induction ws with
  | nil => exact fun hmem => nomatch hmem
  | cons w rest ih =>
    obtain ⟨hw, hrest⟩ := List.forall_mem_cons.mp h
    cases rest with
    | nil => exact hw
    | cons t rest =>
      exact feed_not_mem_append (feed_not_mem_append hw hseparator) (ih hrest)

/-- Items that are words are read back from their list. -/
theorem items_joinWith {ws : List String} (h : ∀ w ∈ ws, IsWord w) :
    items (joinWith ", " ws) = ws := by
  induction ws with
  | nil => rfl
  | cons w rest ih =>
    obtain ⟨hw, hrest⟩ := List.forall_mem_cons.mp h
    cases rest with
    | nil =>
      rw [items, joinWith, hw.words_eq]
      rfl
    | cons t rest =>
      have htail := ih hrest
      rw [items] at htail ⊢
      rw [words_joinWith_commas hw]
      cases hwords : words (joinWith ", " (t :: rest)) with
      | nil =>
        rw [hwords] at htail
        cases htail
      | cons v vs =>
        have hdropped : String.ofList (w ++ ",").toList.dropLast = w := by
          rw [← String.toList_inj]
          simp
        rw [withoutCommas, hdropped, ← hwords, htail]

end TrainingLab.Text
