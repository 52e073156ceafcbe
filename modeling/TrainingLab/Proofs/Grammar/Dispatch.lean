import TrainingLab.Grammar.Rule
import TrainingLab.Proofs.Grammar.Regular

/-
  What a table makes of a line, rule by rule.

  Proved:
  * `dispatch_done_iff`: the first rule that applies and matches completely decides.
  * `exists_done_iff`: some rule decides exactly when one that applies matches completely.
  * `dispatch_incomplete_iff`: more is expected exactly when no rule decides and one that applies
    expects more.
  * `dispatch_incomplete_iff_extends`: with regular patterns, more is expected exactly when no rule
    decides, but with some words behind the line one would.
  * `dispatch_cons_of_none`, `dispatch_cons_of_not_full`, `dispatch_append_of_unknown`: which rules
    can be left out.
  * `exists_rule_of_first_word`: what a line means comes from a rule that can open with its first
    word.
  * `opensWith_ofList`: what a pattern can open with can be read off the characters of its text.
-/

namespace TrainingLab.Grammar

variable {α : Type} {mode : Mode} {context : List Frame} {tokens : List String}

/-- The rule applies, and the line matches it completely. -/
def Rule.fits (mode : Mode) (context : List Frame) (tokens : List String) (r : Rule α) : Bool :=
  r.applies mode context && (r.pattern.matches tokens).isFull

theorem Verdict.orIncomplete_done_iff {v : Verdict α} {m : α} :
    v.orIncomplete = .done m ↔ v = .done m := by
  cases v <;> simp [Verdict.orIncomplete]

theorem Verdict.orIncomplete_incomplete_iff {v : Verdict α} :
    v.orIncomplete = .incomplete ↔ ∀ m, v ≠ .done m := by
  cases v <;> simp [Verdict.orIncomplete]

/-- The first rule that applies and matches completely decides what a line means. -/
theorem dispatch_done_iff {rules : List (Rule α)} {m : α} :
    dispatch mode context tokens rules = .done m ↔
      ∃ r caps, rules.find? (Rule.fits mode context tokens) = some r ∧
        r.pattern.matches tokens = .full caps ∧ m = r.meaning caps := by
  induction rules with
  | nil => simp [dispatch]
  | cons r rest ih =>
    rw [dispatch, List.find?_cons]
    cases happ : r.applies mode context with
    | false => simpa [Rule.fits, happ] using ih
    | true =>
      cases hm : r.pattern.matches tokens with
      | full caps => simp [Rule.fits, happ, hm, Match.isFull, eq_comm]
      | incomplete =>
        simpa [Rule.fits, happ, hm, Match.isFull, Verdict.orIncomplete_done_iff] using ih
      | none => simpa [Rule.fits, happ, hm, Match.isFull] using ih

/-- Some rule decides exactly when one that applies matches completely. -/
theorem exists_done_iff {rules : List (Rule α)} :
    (∃ m, dispatch mode context tokens rules = .done m) ↔
      ∃ r ∈ rules, r.applies mode context = true ∧ (r.pattern.matches tokens).isFull = true := by
  simp only [dispatch_done_iff]
  constructor
  · rintro ⟨_, r, caps, hr, _, _⟩
    have hfits := List.find?_some hr
    rw [Rule.fits, Bool.and_eq_true] at hfits
    exact ⟨r, List.mem_of_find?_eq_some hr, hfits⟩
  · rintro ⟨r, hr, hfits⟩
    have hsome : (rules.find? (Rule.fits mode context tokens)).isSome = true := by
      rw [List.find?_isSome]
      exact ⟨r, hr, by simp [Rule.fits, hfits]⟩
    obtain ⟨first, hfirst⟩ := Option.isSome_iff_exists.mp hsome
    have hfull := List.find?_some hfirst
    rw [Rule.fits, Bool.and_eq_true] at hfull
    obtain ⟨caps, hcaps⟩ := Match.isFull_iff.mp hfull.2
    exact ⟨_, first, caps, hfirst, hcaps, rfl⟩

/-- What a line means comes from a rule of the table that applies. -/
theorem exists_rule_of_done {rules : List (Rule α)} {m : α}
    (h : dispatch mode context tokens rules = .done m) :
    ∃ r ∈ rules, r.applies mode context = true ∧ ∃ caps, m = r.meaning caps := by
  obtain ⟨r, caps, hr, _, hm⟩ := dispatch_done_iff.mp h
  have hfits := List.find?_some hr
  rw [Rule.fits, Bool.and_eq_true] at hfits
  exact ⟨r, List.mem_of_find?_eq_some hr, hfits.1, caps, hm⟩

/-- More is expected exactly when no rule decides and one that applies expects more. -/
theorem dispatch_incomplete_iff {rules : List (Rule α)} :
    dispatch mode context tokens rules = .incomplete ↔
      (∀ m, dispatch mode context tokens rules ≠ .done m) ∧
        ∃ r ∈ rules, r.applies mode context = true ∧
          r.pattern.matches tokens = .incomplete := by
  induction rules with
  | nil => simp [dispatch]
  | cons r rest ih =>
    rw [dispatch]
    cases happ : r.applies mode context with
    | false => simpa [happ] using ih
    | true =>
      cases hm : r.pattern.matches tokens with
      | full caps => simp
      | incomplete =>
        simp [happ, hm, Verdict.orIncomplete_done_iff, Verdict.orIncomplete_incomplete_iff]
      | none => simpa [happ, hm] using ih

/-- With regular patterns, more is expected exactly when no rule decides, but with some words
    behind the line one would. -/
theorem dispatch_incomplete_iff_extends {rules : List (Rule α)}
    (h : ∀ r ∈ rules, r.pattern.Regular) :
    dispatch mode context tokens rules = .incomplete ↔
      (∀ m, dispatch mode context tokens rules ≠ .done m) ∧
        ∃ more, more ≠ [] ∧ ∃ m, dispatch mode context (tokens ++ more) rules = .done m := by
  rw [dispatch_incomplete_iff]
  refine and_congr_right fun hno => ?_
  simp only [exists_done_iff]
  constructor
  · rintro ⟨r, hr, happ, hm⟩
    obtain ⟨_, more, hmore, hfull⟩ := (h r hr).matches_incomplete_iff.mp hm
    exact ⟨more, hmore, r, hr, happ, hfull⟩
  · rintro ⟨more, hmore, r, hr, happ, hfull⟩
    have hnot : (r.pattern.matches tokens).isFull = false := by
      rw [Bool.eq_false_iff]
      intro hf
      obtain ⟨m, hm⟩ := exists_done_iff.mpr ⟨r, hr, happ, hf⟩
      exact hno m hm
    exact ⟨r, hr, happ, (h r hr).matches_incomplete_iff.mpr ⟨hnot, more, hmore, hfull⟩⟩

/-! ## Rules that can be left out -/

/-- A rule that a line does not match at all makes no difference to it. -/
theorem dispatch_cons_of_none {r : Rule α} {rest : List (Rule α)} {v : Verdict α}
    (h : r.pattern.matches tokens = .none) (hrest : dispatch mode context tokens rest = v) :
    dispatch mode context tokens (r :: rest) = v := by
  rw [dispatch, h, ite_self, hrest]

/-- A rule that is not matched completely makes no difference to what a later one is done with. -/
theorem dispatch_cons_of_not_full {r : Rule α} {rest : List (Rule α)} {m : α}
    (h : (r.pattern.matches tokens).isFull = false)
    (hrest : dispatch mode context tokens rest = .done m) :
    dispatch mode context tokens (r :: rest) = .done m := by
  rw [dispatch, hrest]
  split
  next =>
    cases hmatch : r.pattern.matches tokens with
    | full caps =>
      rw [hmatch] at h
      cases h
    | incomplete => rfl
    | none => rfl
  next => rfl

theorem dispatch_cons_of_full {r : Rule α} {caps : Captures}
    (happ : r.applies mode context = true) (h : r.pattern.matches tokens = .full caps)
    (rest : List (Rule α)) :
    dispatch mode context tokens (r :: rest) = .done (r.meaning caps) := by
  rw [dispatch, if_pos happ, h]

theorem dispatch_eq_unknown {rules : List (Rule α)}
    (h : ∀ r ∈ rules, r.applies mode context = true → r.pattern.matches tokens = .none) :
    dispatch mode context tokens rules = .unknown := by
  induction rules with
  | nil => rfl
  | cons r rest ih =>
    obtain ⟨hr, hrest⟩ := List.forall_mem_cons.mp h
    rw [dispatch]
    split
    next happ => rw [hr happ, ih hrest]
    next => exact ih hrest

/-- Where no rule looks at the edited objects, these make no difference. -/
theorem dispatch_anywhere {rules : List (Rule α)} (h : ∀ r ∈ rules, r.scope = .anywhere)
    (other : List Frame) :
    dispatch mode context tokens rules = dispatch mode other tokens rules := by
  induction rules with
  | nil => rfl
  | cons r rest ih =>
    obtain ⟨hr, hrest⟩ := List.forall_mem_cons.mp h
    have happ : r.applies mode context = r.applies mode other := by
      rw [Rule.applies, Rule.applies, hr]
      rfl
    rw [dispatch, dispatch, happ, ih hrest]

/-- Rules in front that know nothing about a line make no difference to it. -/
theorem dispatch_append_of_unknown {before : List (Rule α)}
    (h : dispatch mode context tokens before = .unknown) (after : List (Rule α)) :
    dispatch mode context tokens (before ++ after) = dispatch mode context tokens after := by
  induction before with
  | nil => rfl
  | cons r before ih =>
    rw [dispatch] at h
    rw [List.cons_append, dispatch]
    split
    next happ =>
      rw [if_pos happ] at h
      cases hm : r.pattern.matches tokens with
      | full caps => simp [hm] at h
      | incomplete =>
        simp only [hm] at h
        cases hrest : dispatch mode context tokens before <;>
          simp [hrest, Verdict.orIncomplete] at h
      | none =>
        simp only [hm] at h
        exact ih h
    next happ =>
      rw [if_neg happ] at h
      exact ih h

/-! ## First words -/

/-- A line whose first word is `word` in lower case can match the pattern, as far as the first
    element shows: it is not a keyword that the word is no beginning of. -/
def Pattern.opensWith (word : String) (p : Pattern) : Bool :=
  match p.elements with
  | .keyword k false :: _ => Text.begins word k
  | _ => true

theorem Pattern.opensWith_of_isFull {p : Pattern} {token : String} {rest : List String}
    (h : (p.matches (token :: rest)).isFull = true) :
    p.opensWith (Text.lower token) = true := by
  rw [Pattern.isFull_matches_iff] at h
  unfold opensWith
  split
  next k es hes =>
    rw [hes] at h
    rcases (aligns_cons_iff rfl).mp h with ⟨_, _, heq, htakes, _⟩ | ⟨hoptional, _⟩
    · cases heq
      exact List.isPrefixOf_iff_prefix.mpr htakes.2
    · cases hoptional
  next => rfl

theorem Pattern.matches_of_not_opensWith {p : Pattern} {token : String}
    (h : p.opensWith (Text.lower token) = false) (rest : List String) :
    p.matches (token :: rest) = .none := by
  unfold opensWith at h
  split at h
  next k es hes =>
    have hno : abbreviates token k = false := by rw [abbreviates, h, Bool.and_false]
    simp [Pattern.matches, hes, align, hno]
  next => cases h

/-- The rules in front that do not apply or cannot open with the first word of a line make no
    difference to it. -/
theorem dispatch_fromWord (mode : Mode) (context : List Frame) (token : String)
    (rest : List String) (rules : List (Rule α)) :
    dispatch mode context (token :: rest) rules =
      dispatch mode context (token :: rest) (rules.dropWhile fun r =>
        !(r.applies mode context && r.pattern.opensWith (Text.lower token))) := by
  let skipped : Rule α → Bool := fun r =>
    !(r.applies mode context && r.pattern.opensWith (Text.lower token))
  have hfront : dispatch mode context (token :: rest) (rules.takeWhile skipped) = .unknown := by
    refine dispatch_eq_unknown fun r hr happ => Pattern.matches_of_not_opensWith ?_ rest
    have hskipped : skipped r = true := List.all_eq_true.mp List.all_takeWhile r hr
    simpa [skipped, happ] using hskipped
  have hsplit := dispatch_append_of_unknown hfront (rules.dropWhile skipped)
  rwa [List.takeWhile_append_dropWhile] at hsplit

/-- As far as its first word shows, the text of a pattern can open with the characters. -/
def opensChars (word cs : List Char) : Bool :=
  match Text.wordsFrom [] cs with
  | [] => true
  | first :: _ =>
    match Element.ofChars first with
    | .keyword _ false => word.isPrefixOf first
    | _ => true

/-- What a pattern can open with can be read off the characters of its text. -/
theorem opensWith_ofList (word cs : List Char) :
    (Pattern.ofText (String.ofList cs)).opensWith (String.ofList word) = opensChars word cs := by
  unfold Pattern.opensWith opensChars
  rw [elements_ofText, elementsOfChars]
  cases Text.wordsFrom [] cs with
  | nil => rfl
  | cons first rest =>
    rw [List.map_cons]
    dsimp only
    cases he : Element.ofChars first with
    | keyword k optional =>
      cases optional with
      | true => rfl
      | false =>
        obtain ⟨_, rfl, ⟨hoptional, _⟩ | ⟨_, rfl⟩⟩ := ofChars_keyword he
        · cases hoptional
        · simp [Text.begins]
    | argument name kind optional => rfl
    | rest name optional => rfl

/-- The pattern opens with none of the words, as the characters of its text show. -/
theorem not_opensWith_ofChars (words : List (List Char)) {cs : List Char}
    (h : ∀ word ∈ words, opensChars word cs = false) :
    ∀ word ∈ words.map String.ofList,
      (Pattern.ofText (String.ofList cs)).opensWith word = false :=
  List.forall_mem_map.mpr fun word hword => (opensWith_ofList word cs).trans (h word hword)

/-- What a line means comes from a rule that can open with its first word. -/
theorem exists_rule_of_first_word {rules : List (Rule α)} {token : String} {rest : List String}
    {m : α} (h : dispatch mode context (token :: rest) rules = .done m) :
    ∃ r ∈ rules, r.pattern.opensWith (Text.lower token) = true ∧ ∃ caps, m = r.meaning caps := by
  obtain ⟨r, caps, hr, hcaps, hm⟩ := dispatch_done_iff.mp h
  have hfull : (r.pattern.matches (token :: rest)).isFull = true := by
    rw [hcaps]
    rfl
  exact ⟨r, List.mem_of_find?_eq_some hr, Pattern.opensWith_of_isFull hfull, caps, hm⟩

end TrainingLab.Grammar
