import TrainingLab.Proofs.Grammar.Matching
import TrainingLab.Proofs.Text.Words

/-
  Lines that expect more. The matcher is three-valued, and its middle verdict is decided while it
  backtracks; here it is shown to be a fact about the language: a line is incomplete exactly when
  it does not match, but some words behind it make it match (`align_incomplete_iff`).

  It takes two conditions on the pattern. A rest may only be last, since a rest that has taken the
  words leaves none for what follows. And every element that has to take a word must have one that
  it takes, which holds for patterns read from a text if their keywords are in lower case
  (`fillable_ofText`).
-/

namespace TrainingLab.Grammar

/-- Only the last element may be a rest. -/
def RestLast (es : List Element) : Prop := ∀ e ∈ es.dropLast, e.isRest = false

instance (es : List Element) : Decidable (RestLast es) :=
  inferInstanceAs (Decidable (∀ e ∈ es.dropLast, e.isRest = false))

namespace Element

/-- A keyword, if the element is one, is in lower case. -/
def IsLower : Element → Prop
  | keyword word _ => Text.lower word = word
  | _ => True

instance : DecidablePred IsLower
  | keyword word _ => inferInstanceAs (Decidable (Text.lower word = word))
  | argument _ _ _ => isTrue trivial
  | rest _ _ => isTrue trivial

/-- If the element has to take a single word, there is one that it takes. -/
def Fillable (e : Element) : Prop :=
  e.isOptional = true ∨ e.isRest = true ∨ ∃ token, e.Takes token

end Element

/-! ## Words for the elements -/

/-- Every kind of placeholder takes some word. -/
theorem ArgumentKind.exists_accepts (kind : ArgumentKind) :
    ∃ token, kind.accepts token = true := by
  cases kind with
  | address => exact ⟨"0.0.0.0", by decide⟩
  | mask => exact ⟨"0.0.0.0", by decide⟩
  | cidr => exact ⟨"0.0.0.0/0", by decide⟩
  | number => exact ⟨"0", by decide⟩
  | word => exact ⟨"", rfl⟩

/-- A keyword in lower case stands for itself, unless it is empty. -/
theorem takes_keyword_self {word : String} {optional : Bool} (hlower : Text.lower word = word)
    (hne : word ≠ "") : (Element.keyword word optional).Takes word := by
  refine ⟨?_, ?_⟩
  · rw [hlower]
    exact hne
  · exact ⟨[], by rw [hlower, List.append_nil]⟩

/-- A keyword is the word of the pattern's text, less the brackets if it may be left out. -/
theorem ofChars_keyword {cs : List Char} {word : String} {optional : Bool}
    (h : Element.ofChars cs = .keyword word optional) :
    ∃ inner, word = String.ofList inner ∧
      ((optional = true ∧ cs = '[' :: inner ++ [']']) ∨ (optional = false ∧ cs = inner)) := by
  cases hinner : between? '[' ']' cs with
  | some inner =>
    simp only [Element.ofChars, hinner] at h
    obtain ⟨most, hstart, hend⟩ := Option.bind_eq_some_iff.mp hinner
    have hcs : cs = '[' :: inner ++ [']'] := by
      rw [Text.eq_append_of_afterStart? hstart, Text.eq_append_of_beforeEnd? hend]
      rfl
    split at h
    next => cases h
    next =>
      split at h
      next => cases h
      next =>
        cases h
        exact ⟨inner, rfl, Or.inl ⟨rfl, hcs⟩⟩
  | none =>
    simp only [Element.ofChars, hinner] at h
    split at h
    next => cases h
    next =>
      split at h
      next => cases h
      next =>
        cases h
        exact ⟨cs, rfl, Or.inr ⟨rfl, rfl⟩⟩

/-- An element read from a word of a text is fillable if it is no keyword with capitals: only `[]`
    makes an empty keyword, and that one may be left out. -/
theorem fillable_ofText {text : String} (hne : text ≠ "")
    (hlower : (Element.ofText text).IsLower) : (Element.ofText text).Fillable := by
  generalize he : Element.ofText text = e at hlower
  cases e with
  | rest name optional => exact Or.inr (Or.inl rfl)
  | argument name kind optional => exact Or.inr (Or.inr kind.exists_accepts)
  | keyword word optional =>
    obtain ⟨inner, rfl, ⟨rfl, _⟩ | ⟨rfl, rfl⟩⟩ := ofChars_keyword he
    · exact Or.inl rfl
    · refine Or.inr (Or.inr ⟨_, takes_keyword_self hlower ?_⟩)
      rw [String.ofList_toList]
      exact hne

/-! ## Completions -/

theorem RestLast.tail {e : Element} {es : List Element} (h : RestLast (e :: es)) :
    RestLast es := by
  cases es with
  | nil => exact fun _ he => nomatch he
  | cons e' es => exact fun x hx => h x (List.mem_cons_of_mem e hx)

/-- Nothing follows a rest. -/
theorem RestLast.eq_nil {e : Element} {es : List Element} (h : RestLast (e :: es))
    (he : e.isRest = true) : es = [] := by
  cases es with
  | nil => rfl
  | cons e' es =>
    have := h e List.mem_cons_self
    rw [he] at this
    cases this

theorem aligns_nil_rest {name : String} {optional : Bool} {tokens : List String} :
    Aligns [.rest name optional] tokens ↔ tokens ≠ [] ∨ optional = true := by
  rw [aligns_rest_iff, aligns_nil_iff]
  exact ⟨And.right, fun h => ⟨rfl, h⟩⟩

/-- Fillable elements can be laid against some words. -/
theorem exists_aligns {es : List Element} (hlast : RestLast es) (hfill : ∀ e ∈ es, e.Fillable) :
    ∃ tokens, Aligns es tokens := by
  induction es with
  | nil => exact ⟨[], aligns_nil_iff.mpr rfl⟩
  | cons e es ih =>
    cases he : e.isRest with
    | true =>
      obtain ⟨name, optional, rfl⟩ := Element.eq_rest_of_isRest he
      rw [hlast.eq_nil he]
      exact ⟨["x"], aligns_nil_rest.mpr (Or.inl (by simp))⟩
    | false =>
      obtain ⟨tokens, htokens⟩ := ih hlast.tail fun x hx => hfill x (List.mem_cons_of_mem e hx)
      rcases hfill e List.mem_cons_self with ho | hr | ⟨token, ht⟩
      · exact ⟨tokens, (aligns_cons_iff he).mpr (Or.inr ⟨ho, htokens⟩)⟩
      · rw [he] at hr
        cases hr
      · exact ⟨token :: tokens, (aligns_cons_iff he).mpr (Or.inl ⟨_, _, rfl, ht, htokens⟩)⟩

/-- The words are no match, but with further words behind them they are. -/
def Completes (es : List Element) (tokens : List String) : Prop :=
  ¬ Aligns es tokens ∧ ∃ more, more ≠ [] ∧ Aligns es (tokens ++ more)

theorem completes_nil {tokens : List String} : ¬ Completes [] tokens := by
  rintro ⟨hno, more, hmore, h⟩
  rw [aligns_nil_iff, List.append_eq_nil_iff] at h
  exact hmore h.2

/-- No words need to be added where none are there, unless they do not match. -/
theorem completes_of_nil {es : List Element} (hlast : RestLast es)
    (hfill : ∀ e ∈ es, e.Fillable) (hno : ¬ Aligns es []) : Completes es [] := by
  obtain ⟨tokens, h⟩ := exists_aligns hlast hfill
  refine ⟨hno, tokens, ?_, h⟩
  rintro rfl
  exact hno h

/-- A match can be completed at an element that takes one word in the ways that the trial of the
    element distinguishes. -/
theorem completes_cons_iff {e : Element} (he : e.isRest = false) {es : List Element}
    (hlast : RestLast (e :: es)) (hfill : ∀ x ∈ e :: es, x.Fillable) {tokens : List String} :
    Completes (e :: es) tokens ↔
      ¬ Aligns (e :: es) tokens ∧
        ((tokens = [] ∧ e.isOptional = false) ∨
          (∃ token rest, tokens = token :: rest ∧ e.Takes token ∧ Completes es rest) ∨
          (e.isOptional = true ∧ Completes es tokens)) := by
  have hfill' : ∀ x ∈ es, x.Fillable := fun x hx => hfill x (List.mem_cons_of_mem e hx)
  refine and_congr_right fun hno => ?_
  have hskip : e.isOptional = true → ¬ Aligns es tokens := fun ho h =>
    hno ((aligns_cons_iff he).mpr (Or.inr ⟨ho, h⟩))
  constructor
  · rintro ⟨more, hmore, h⟩
    -- the completed line either gives the element a word, which may be an added one, or leaves
    -- the element out
    rcases (aligns_cons_iff he).mp h with ⟨token, rest, hcut, ht, h⟩ | ⟨ho, h⟩
    · cases tokens with
      | nil =>
        cases ho : e.isOptional with
        | false => exact Or.inl ⟨rfl, rfl⟩
        | true => exact Or.inr (Or.inr ⟨rfl, completes_of_nil hlast.tail hfill' (hskip ho)⟩)
      | cons first others =>
        obtain ⟨rfl, rfl⟩ := List.cons.inj hcut
        refine Or.inr (Or.inl ⟨_, _, rfl, ht, fun hrest => hno ?_, more, hmore, h⟩)
        exact (aligns_cons_iff he).mpr (Or.inl ⟨_, _, rfl, ht, hrest⟩)
    · exact Or.inr (Or.inr ⟨ho, hskip ho, more, hmore, h⟩)
  · rintro (⟨rfl, ho⟩ | ⟨token, rest, rfl, ht, _, more, hmore, h⟩ | ⟨ho, _, more, hmore, h⟩)
    · exact (completes_of_nil hlast hfill hno).2
    · exact ⟨more, hmore, (aligns_cons_iff he).mpr (Or.inl ⟨_, _, rfl, ht, h⟩)⟩
    · exact ⟨more, hmore, (aligns_cons_iff he).mpr (Or.inr ⟨ho, h⟩)⟩

theorem takeWord_incomplete_iff {e : Element} {es : List Element} {tokens : List String}
    {caps : Captures} :
    (takeWord e es caps tokens).1 = .incomplete ↔
      (tokens = [] ∧ e.isOptional = false) ∨
        ∃ token rest, tokens = token :: rest ∧ e.Takes token ∧
          (align es rest (e.hold token caps)).1 = .incomplete := by
  cases tokens with
  | nil => cases ho : e.isOptional <;> simp [takeWord, ho]
  | cons token tokens =>
    rw [takeWord]
    split
    next ha =>
      constructor
      · exact fun h => Or.inr ⟨token, tokens, rfl, Element.accepts_iff.mp ha, h⟩
      · rintro (⟨h, _⟩ | ⟨_, _, hcut, _, h⟩)
        · cases h
        · cases hcut
          exact h
    next ha =>
      refine iff_of_false (by simp) ?_
      rintro (⟨h, _⟩ | ⟨_, _, hcut, ht, _⟩)
      · cases h
      · cases hcut
        exact ha (Element.accepts_iff.mpr ht)

/-- A line is incomplete exactly when it does not match and some words behind it make it match.
    The induction follows the elements; each way in which the trial or the skip of an element is
    incomplete is one way to complete the line. -/
theorem align_incomplete_iff {es : List Element} (hlast : RestLast es)
    (hfill : ∀ e ∈ es, e.Fillable) {tokens : List String} {caps : Captures} :
    (align es tokens caps).1 = .incomplete ↔ Completes es tokens := by
  induction es generalizing tokens caps with
  | nil =>
    refine iff_of_false ?_ completes_nil
    rw [align]
    split <;> simp
  | cons e es ih =>
    have hfill' : ∀ x ∈ es, x.Fillable := fun x hx => hfill x (List.mem_cons_of_mem e hx)
    cases he : e.isRest with
    | true =>
      obtain ⟨name, optional, rfl⟩ := Element.eq_rest_of_isRest he
      have hnil := hlast.eq_nil he
      subst hnil
      by_cases hne : tokens = []
      · subst hne
        rw [align_rest_nil, Completes, aligns_nil_rest]
        cases optional with
        | true => simp [align]
        | false =>
          refine iff_of_true rfl ⟨by simp, ["x"], by simp, ?_⟩
          exact aligns_nil_rest.mpr (Or.inl (by simp))
      · refine iff_of_false ?_ fun h => h.1 (aligns_nil_rest.mpr (Or.inl hne))
        rw [align_rest_cons name optional [] hne]
        simp [align]
    | false =>
      rw [align_cons he, orSkip_incomplete_iff, ← align_cons he, completes_cons_iff he hlast hfill,
        takeWord_incomplete_iff, Bool.eq_false_iff, ne_eq, isFull_align_iff]
      refine and_congr_right fun _ => ?_
      simp only [ih hlast.tail hfill', or_assoc]

end TrainingLab.Grammar
