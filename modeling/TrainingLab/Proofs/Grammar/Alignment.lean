import TrainingLab.Grammar.Pattern
import TrainingLab.Proofs.SortedMap

/-
  The language of a pattern. `Alignment` says, without any search, how the elements of a pattern
  may be laid against the words of a line: which of them take words, and what the placeholders
  among these bind. Of several alignments, the preferred one takes words at the first element that
  they treat differently.

  Proved:
  * `Alignment.bindings_unique`: the bindings follow from which elements take words.
  * `Preferred.unique`: there is at most one preferred alignment.
  * `aligns_cons_iff`, `aligns_argument_iff`, `aligns_rest_iff`: what the first element may do.
  * `Alignment.names_sublist`: only placeholders are bound, each of them once.
-/

namespace TrainingLab.Grammar

namespace Element

/-- The element may be left out. -/
def isOptional : Element → Bool
  | keyword _ optional => optional
  | argument _ _ optional => optional
  | rest _ optional => optional

/-- The element takes all the words that are left. -/
def isRest : Element → Bool
  | rest _ _ => true
  | _ => false

theorem eq_rest_of_isRest {e : Element} (h : e.isRest = true) :
    ∃ name optional, e = .rest name optional := by
  cases e with
  | rest name optional => exact ⟨name, optional, rfl⟩
  | _ => cases h

/-- The name of a placeholder. -/
def name? : Element → Option String
  | keyword _ _ => none
  | argument name _ _ => some name
  | rest name _ => some name

/-- The element takes the word by itself: a word stands for a keyword if in lower case it is a
    beginning of it, and not empty. -/
def Takes : Element → String → Prop
  | keyword word _, token => Text.lower token ≠ "" ∧ (Text.lower token).toList <+: word.toList
  | argument _ kind _, token => kind.accepts token = true
  | rest _ _, _ => False

theorem isRest_of_takes {e : Element} {token : String} (h : e.Takes token) :
    e.isRest = false := by
  cases e with
  | rest name optional => exact h.elim
  | _ => rfl

/-- What the element binds when it takes the word. -/
def binds : Element → String → List (String × String)
  | argument name _ _, token => [(name, token)]
  | _, _ => []

end Element

/-- The names of the placeholders, in order. -/
def placeholders (es : List Element) : List String := es.filterMap Element.name?

/-- A way to lay elements against words: for every element whether it takes words, and the bindings
    of those that do. A rest takes all the words there are and is left out only where there are
    none. -/
inductive Alignment : List Element → List String → List Bool → List (String × String) → Prop
  | done : Alignment [] [] [] []
  | word {e es token tokens takes bindings} : e.Takes token →
      Alignment es tokens takes bindings →
      Alignment (e :: es) (token :: tokens) (true :: takes) (e.binds token ++ bindings)
  | rest {name optional es tokens takes bindings} : tokens ≠ [] →
      Alignment es [] takes bindings →
      Alignment (.rest name optional :: es) tokens (true :: takes)
        ((name, Text.joinWith " " tokens) :: bindings)
  | skip {e es tokens takes bindings} : e.isOptional = true →
      (e.isRest = true → tokens = []) → Alignment es tokens takes bindings →
      Alignment (e :: es) tokens (false :: takes) bindings

/-- At the first element that is treated differently, the former takes words. -/
inductive TakesSooner : List Bool → List Bool → Prop
  | here {takes others} : TakesSooner (true :: takes) (false :: others)
  | there {b takes others} : TakesSooner takes others → TakesSooner (b :: takes) (b :: others)

/-- The alignment that takes words rather than leaving an element out, from left to right. -/
def Preferred (es : List Element) (tokens : List String) (takes : List Bool)
    (bindings : List (String × String)) : Prop :=
  Alignment es tokens takes bindings ∧
  ∀ others otherBindings, Alignment es tokens others otherBindings →
    others = takes ∨ TakesSooner takes others

/-- There is an alignment. -/
def Aligns (es : List Element) (tokens : List String) : Prop :=
  ∃ takes bindings, Alignment es tokens takes bindings

/-! ## Alignments -/

theorem TakesSooner.asymm {a b : List Bool} (h : TakesSooner a b) : ¬ TakesSooner b a := by
  induction h with
  | here => intro h'; cases h'
  | there _ ih =>
    intro h'
    cases h' with
    | there h' => exact ih h'

/-- The choices determine the bindings. -/
theorem Alignment.bindings_unique {es : List Element} {tokens : List String} {takes : List Bool}
    {b b' : List (String × String)} (h : Alignment es tokens takes b)
    (h' : Alignment es tokens takes b') : b = b' := by
  induction h generalizing b' with
  | done => cases h'; rfl
  | word ht _ ih =>
    cases h' with
    | word _ h' => rw [ih h']
    | rest _ _ => exact ht.elim
  | rest _ _ ih =>
    cases h' with
    | word ht _ => exact ht.elim
    | rest _ h' => rw [ih h']
  | skip _ _ _ ih =>
    cases h' with
    | skip _ _ h' => exact ih h'

/-- Only placeholders are bound, and each of them once. -/
theorem Alignment.names_sublist {es : List Element} {tokens : List String} {takes : List Bool}
    {bindings : List (String × String)} (h : Alignment es tokens takes bindings) :
    (bindings.map Prod.fst).Sublist (placeholders es) := by
  induction h with
  | done => exact List.Sublist.slnil
  | @word e es token tokens takes bindings _ _ ih =>
    cases e with
    | argument name kind optional => exact ih.cons_cons name
    | keyword word optional => exact ih
    | rest name optional => exact ih.cons name
  | @rest name optional es tokens takes bindings _ _ ih => exact ih.cons_cons name
  | @skip e es tokens takes bindings _ _ _ ih =>
    cases e with
    | argument name kind optional => exact ih.cons name
    | keyword word optional => exact ih
    | rest name optional => exact ih.cons name

/-- There is at most one preferred alignment. -/
theorem Preferred.unique {es : List Element} {tokens : List String} {a a' : List Bool}
    {b b' : List (String × String)} (h : Preferred es tokens a b)
    (h' : Preferred es tokens a' b') : a = a' ∧ b = b' := by
  have ha : a = a' := by
    rcases h.2 a' b' h'.1 with he | hs
    · exact he.symm
    · rcases h'.2 a b h.1 with he | hs'
      · exact he
      · exact absurd hs' hs.asymm
  subst ha
  exact ⟨rfl, h.1.bindings_unique h'.1⟩

theorem aligns_nil_iff {tokens : List String} : Aligns [] tokens ↔ tokens = [] := by
  constructor
  · rintro ⟨_, _, h⟩
    cases h
    rfl
  · rintro rfl
    exact ⟨_, _, .done⟩

/-- An element that takes one word either takes the first one or is left out. -/
theorem aligns_cons_iff {e : Element} (he : e.isRest = false) {es : List Element}
    {tokens : List String} :
    Aligns (e :: es) tokens ↔
      (∃ token rest, tokens = token :: rest ∧ e.Takes token ∧ Aligns es rest) ∨
      (e.isOptional = true ∧ Aligns es tokens) := by
  constructor
  · rintro ⟨_, _, h⟩
    cases h with
    | word ht h => exact Or.inl ⟨_, _, rfl, ht, _, _, h⟩
    | rest _ _ => cases he
    | skip ho _ h => exact Or.inr ⟨ho, _, _, h⟩
  · rintro (⟨token, rest, rfl, ht, _, _, h⟩ | ⟨ho, _, _, h⟩)
    · exact ⟨_, _, .word ht h⟩
    · refine ⟨_, _, .skip ho (fun hr => ?_) h⟩
      rw [he] at hr
      cases hr

/-- A placeholder that may not be left out takes the first word. -/
theorem aligns_argument_iff {name : String} {kind : ArgumentKind} {es : List Element}
    {tokens : List String} :
    Aligns (.argument name kind false :: es) tokens ↔
      ∃ token rest, tokens = token :: rest ∧ kind.accepts token = true ∧ Aligns es rest := by
  rw [aligns_cons_iff rfl]
  simp [Element.isOptional, Element.Takes]

/-- A rest takes everything, or is left out where there is nothing. -/
theorem aligns_rest_iff {name : String} {optional : Bool} {es : List Element}
    {tokens : List String} :
    Aligns (.rest name optional :: es) tokens ↔
      Aligns es [] ∧ (tokens ≠ [] ∨ optional = true) := by
  constructor
  · rintro ⟨_, _, h⟩
    cases h with
    | word ht _ => exact ht.elim
    | rest hne h => exact ⟨⟨_, _, h⟩, Or.inl hne⟩
    | skip ho hnil h =>
      have := hnil rfl
      subst this
      exact ⟨⟨_, _, h⟩, Or.inr ho⟩
  · rintro ⟨⟨_, _, h⟩, ho⟩
    by_cases hne : tokens = []
    · subst hne
      exact ⟨_, _, .skip (ho.resolve_left fun h => h rfl) (fun _ => rfl) h⟩
    · exact ⟨_, _, .rest hne h⟩

end TrainingLab.Grammar
