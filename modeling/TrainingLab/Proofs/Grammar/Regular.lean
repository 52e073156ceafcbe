import TrainingLab.Proofs.Grammar.Completion

/-
  Regular patterns, which are those that the tables are made of, and what the verdict on a line
  says about them.

  Proved:
  * `Pattern.isFull_matches_iff`: a line matches exactly when it can be laid against the elements.
  * `Pattern.matches_full_iff`: the captures are the bindings of the preferred alignment.
  * `Pattern.matches_incomplete_iff`: a line is incomplete exactly when it does not match, but some
    words behind it make it match.
  * `regular_ofList`: regularity can be read off the characters of the pattern's text.
-/

namespace TrainingLab.Grammar

/-- A pattern that is read from a text, with distinct names for its placeholders, keywords in
    lower case and a rest at most at its end. The patterns of all tables are of this form. -/
structure Pattern.Regular (p : Pattern) : Prop where
  written : ∃ text, p = Pattern.ofText text
  distinct : (placeholders p.elements).Nodup
  restLast : RestLast p.elements
  lower : ∀ e ∈ p.elements, e.IsLower

/-- The elements of a pattern that is read from a text are fillable, if no keyword has capitals. -/
theorem fillable_pattern {text : String} (h : ∀ e ∈ (Pattern.ofText text).elements, e.IsLower) :
    ∀ e ∈ (Pattern.ofText text).elements, e.Fillable := by
  intro e he
  obtain ⟨word, hword, rfl⟩ := List.mem_map.mp he
  exact fillable_ofText (Text.ne_empty_of_mem_words hword) (h _ he)

/-! ## Verdicts -/

theorem Pattern.isFull_matches_iff {p : Pattern} {tokens : List String} :
    (p.matches tokens).isFull = true ↔ Aligns p.elements tokens := isFull_align_iff

/-- The captures of a complete match are the bindings of the preferred alignment. -/
theorem Pattern.matches_full_iff {p : Pattern} (hd : (placeholders p.elements).Nodup)
    {tokens : List String} {caps : Captures} :
    p.matches tokens = .full caps ↔
      ∃ takes bindings, Preferred p.elements tokens takes bindings ∧
        ∀ name text, caps.find? name = some text ↔ (name, text) ∈ bindings := by
  have hheld : ∀ {takes bindings}, Preferred p.elements tokens takes bindings →
      ∀ name text, (SortedMap.ofList bindings).find? name = some text ↔ (name, text) ∈ bindings :=
    fun hp _ _ => SortedMap.find?_ofList_iff (hp.1.names_sublist.nodup hd)
  rw [Pattern.matches, align_full_iff hd fun _ _ => rfl]
  constructor
  · rintro ⟨takes, bindings, hp, rfl⟩
    exact ⟨takes, bindings, hp, hheld hp⟩
  · rintro ⟨takes, bindings, hp, h⟩
    refine ⟨takes, bindings, hp, SortedMap.ext_find? fun name => Option.ext fun text => ?_⟩
    rw [h name text]
    exact (hheld hp name text).symm

/-- A line is incomplete exactly when it does not match, but some words behind it make it match. -/
theorem Pattern.matches_incomplete_iff {text : String}
    (hlast : RestLast (Pattern.ofText text).elements)
    (hlower : ∀ e ∈ (Pattern.ofText text).elements, e.IsLower) {tokens : List String} :
    (Pattern.ofText text).matches tokens = .incomplete ↔
      ((Pattern.ofText text).matches tokens).isFull = false ∧
        ∃ more, more ≠ [] ∧ ((Pattern.ofText text).matches (tokens ++ more)).isFull = true := by
  rw [Pattern.matches, align_incomplete_iff hlast (fillable_pattern hlower), Completes,
    ← Pattern.isFull_matches_iff, Bool.not_eq_true]
  refine and_congr_right fun _ => exists_congr fun more => and_congr_right fun _ => ?_
  exact Pattern.isFull_matches_iff.symm

theorem Pattern.Regular.matches_incomplete_iff {p : Pattern} (h : p.Regular)
    {tokens : List String} :
    p.matches tokens = .incomplete ↔
      (p.matches tokens).isFull = false ∧
        ∃ more, more ≠ [] ∧ (p.matches (tokens ++ more)).isFull = true := by
  obtain ⟨text, rfl⟩ := h.written
  exact Pattern.matches_incomplete_iff h.restLast h.lower

/-! ## Reading regularity off a text -/

/-- The elements that the characters of a text stand for. -/
def elementsOfChars (cs : List Char) : List Element := (Text.wordsFrom [] cs).map Element.ofChars

theorem elements_ofText (cs : List Char) :
    (Pattern.ofText (String.ofList cs)).elements = elementsOfChars cs := by
  simp [Pattern.ofText, elementsOfChars, Text.words, Element.ofText]

/-- Keywords of a text of plain characters are in lower case. -/
theorem isLower_of_plain {cs : List Char} (h : ∀ c ∈ cs, Text.isPlain c = true) :
    ∀ e ∈ elementsOfChars cs, e.IsLower := by
  intro e he
  obtain ⟨w, hw, hwe⟩ := List.mem_map.mp he
  have hplain : ∀ c ∈ w, Text.isPlain c = true := by
    intro c hc
    rcases (Text.mem_wordsFrom hw).2 c hc with hc | hc
    · cases hc
    · exact h c hc
  cases e with
  | argument name kind optional => exact trivial
  | rest name optional => exact trivial
  | keyword word optional =>
    obtain ⟨inner, rfl, ⟨_, rfl⟩ | ⟨_, rfl⟩⟩ := ofChars_keyword hwe
    · exact Text.lower_of_plain fun c hc => hplain c (by simp [hc])
    · exact Text.lower_of_plain hplain

/-- The characters of a text are plain, and their elements have distinct names and a rest at most
    at the end. -/
def regularChars (cs : List Char) : Bool :=
  cs.all Text.isPlain && decide (placeholders (elementsOfChars cs)).Nodup &&
    decide (RestLast (elementsOfChars cs))

/-- Regularity can be read off the characters of the pattern's text. -/
theorem regular_ofList {cs : List Char} (h : regularChars cs = true) :
    (Pattern.ofText (String.ofList cs)).Regular := by
  rw [regularChars, Bool.and_eq_true, Bool.and_eq_true, decide_eq_true_eq, decide_eq_true_eq,
    List.all_eq_true] at h
  obtain ⟨⟨hplain, hd⟩, hlast⟩ := h
  rw [← elements_ofText] at hd hlast
  refine ⟨⟨_, rfl⟩, hd, hlast, ?_⟩
  rw [elements_ofText]
  exact isLower_of_plain hplain

end TrainingLab.Grammar
