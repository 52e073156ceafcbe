import TrainingLab.Json.Reader
import TrainingLab.Proofs.Datum.Codec
import TrainingLab.Proofs.Datum.Parts
import TrainingLab.Proofs.Json.Lexer
import TrainingLab.Proofs.Json.Numeral
import TrainingLab.Proofs.Text.Words

/-
  A document that is printed is read again. What is printed of a document is lexed to tokens which,
  wherever a value is expected, leave the reader with the document as that value (`Spells`). For a
  list or a record, this is shown of its items or fields one after the other, with those read before
  on the stack.

  Proved:
  * `spells_print`: by induction over the document.
  * `read?_print`: for the document as a whole.
-/

namespace TrainingLab.Json

open Datum

/-- JSON has a form for the document, leaving its parts aside, and numbers are held by 64 bits. -/
def IsPrintable : Datum → Prop
  | .number n => n.Held
  | .broken => False
  | .record _ plainNumbers => plainNumbers = true
  | _ => True

/-! ## Steps of the reader -/

theorem readFrom_step {expected next : Expected} {stack above : List Open} {token : Token}
    (h : readStep expected stack token = some (next, above)) (tokens : List Token) :
    readFrom expected stack (token :: tokens) = readFrom next above tokens := by
  rw [readFrom, h]

/-- Where a value is expected, the tokens give the document. -/
structure Denotes (tokens : List Token) (d : Datum) : Prop where
  opens : ∃ token rest, tokens = token :: rest ∧ token ≠ .closeList
  reads : ∀ stack rest, readFrom .value stack (tokens ++ rest) = readFrom (.rest d) stack rest

/-- The first item of a list. -/
theorem Denotes.readFrom_item {tokens : List Token} {d : Datum} (h : Denotes tokens d)
    (stack : List Open) (rest : List Token) :
    readFrom .item stack (tokens ++ rest) = readFrom (.rest d) (.list [] :: stack) rest := by
  obtain ⟨token, others, rfl, hopens⟩ := h.opens
  have hstep : readStep .item stack token = readStep .value (.list [] :: stack) token := by
    cases token <;> first | rfl | exact absurd rfl hopens
  rw [← h.reads, List.cons_append, readFrom, readFrom, hstep]

/-- A token that is a value by itself. -/
theorem Denotes.scalar {token : Token} {d : Datum} (h : scalar? token = some d) :
    Denotes [token] d := by
  cases token <;> cases h
  all_goals exact ⟨⟨_, _, rfl, Token.noConfusion⟩, fun _ _ => rfl⟩

/-- The characters are lexed to tokens which give the document. -/
def Spells (cs : List Char) (d : Datum) : Prop := ∃ tokens, Lexes cs tokens ∧ Denotes tokens d

/-! ## Values without parts -/

theorem spells_word {cs : List Char} {token : Token} {d : Datum} (hne : cs ≠ [])
    (hchars : cs.all isWordChar = true) (htoken : wordToken? cs = some token)
    (hscalar : scalar? token = some d) : Spells cs d :=
  ⟨[token], lexes_word hne (List.all_eq_true.mp hchars) htoken, .scalar hscalar⟩

theorem spells_numeral {n : Numeral} (h : n.Held) : Spells (numeralText n).toList (.number n) := by
  have hread := numeral?_numeralText h
  refine spells_word ?_ (List.all_eq_true.mpr (isWordChar_numeralText h))
    (wordToken?_of_numeral? hread) rfl
  intro hnil
  rw [hnil] at hread
  cases hread

theorem spells_quoted (s : String) : Spells (quoted s).toList (.text s) := by
  refine ⟨_, lexes_quoted s, .scalar ?_⟩
  rw [scalar?, textOf, value_literal]

/-! ## Lists -/

/-- The items behind the first one, as they are printed. -/
def furtherItems (items : List Datum) : List Char :=
  items.flatMap fun d => ',' :: (print d).toList

theorem ends_furtherItems (items : List Datum) (rest : List Char) :
    Ends (furtherItems items ++ ']' :: rest) := by
  cases items with
  | nil => exact ends_cons rfl _
  | cons d items => exact ends_cons rfl _

/-- The items behind the first one, up to the end of the list. -/
theorem spells_furtherItems {items : List Datum} (h : ∀ d ∈ items, Spells (print d).toList d) :
    ∃ tokens,
      (∀ back rest, scan ⟨back, .blank⟩ (furtherItems items ++ ']' :: rest) =
        scan ⟨tokens.reverse ++ back, .blank⟩ rest) ∧
      ∀ first done stack rest, readFrom (.rest first) (.list done :: stack) (tokens ++ rest) =
        readFrom (.rest (.list (done.reverse ++ first :: items))) stack rest := by
  induction items with
  | nil =>
    refine ⟨[.closeList], fun back rest => scan_mark rfl back rest, fun first done stack rest => ?_⟩
    rw [← List.reverse_cons]
    exact readFrom_step rfl rest
  | cons d items ih =>
    obtain ⟨hd, hitems⟩ := List.forall_mem_cons.mp h
    obtain ⟨tokens, hlexes, hdenotes⟩ := hd
    obtain ⟨others, hscan, hread⟩ := ih hitems
    refine ⟨.comma :: tokens ++ others, fun back rest => ?_, fun first done stack rest => ?_⟩
    · have htext : furtherItems (d :: items) ++ ']' :: rest =
          ',' :: ((print d).toList ++ (furtherItems items ++ ']' :: rest)) := by
        simp [furtherItems]
      rw [htext, scan_mark rfl, hlexes _ _ (ends_furtherItems items rest), hscan]
      simp
    · have hcomma : readStep (.rest first) (.list done :: stack) .comma =
          some (.value, .list (first :: done) :: stack) := rfl
      rw [List.cons_append, List.cons_append, readFrom_step hcomma, List.append_assoc,
        hdenotes.reads, hread, List.reverse_cons, List.append_assoc]
      rfl

/-! ## Records -/

/-- A field as it is printed. -/
def fieldText (e : String × Datum) : List Char := (quoted e.1).toList ++ ':' :: (print e.2).toList

/-- A field as it is read. -/
def readField (e : String × Datum) : Literal × Datum := (literal e.1, e.2)

/-- A field, where the first one or a further one is expected. -/
theorem spells_field {e : String × Datum} (h : Spells (print e.2).toList e.2) :
    ∃ tokens, Lexes (fieldText e) tokens ∧
      (∀ stack rest, readFrom .firstField stack (tokens ++ rest) =
        readFrom (.rest e.2) (.record [] (literal e.1) :: stack) rest) ∧
      ∀ back stack rest, readFrom (.field back) stack (tokens ++ rest) =
        readFrom (.rest e.2) (.record back (literal e.1) :: stack) rest := by
  obtain ⟨tokens, hlexes, hdenotes⟩ := h
  have hvalue : ∀ back stack rest,
      readFrom (.colon back (literal e.1)) stack (.colon :: tokens ++ rest) =
        readFrom (.rest e.2) (.record back (literal e.1) :: stack) rest := by
    intro back stack rest
    have hcolon : readStep (.colon back (literal e.1)) stack .colon =
        some (.value, .record back (literal e.1) :: stack) := rfl
    rw [List.cons_append, readFrom_step hcolon, hdenotes.reads]
  refine ⟨.text (literal e.1) :: .colon :: tokens, fun back rest hrest => ?_,
    fun stack rest => ?_, fun back stack rest => ?_⟩
  · have hname := lexes_quoted e.1 back (':' :: ((print e.2).toList ++ rest)) (ends_cons rfl _)
    rw [fieldText, List.append_assoc, List.cons_append, hname, scan_mark rfl, hlexes _ _ hrest]
    simp
  · exact (readFrom_step rfl _).trans (hvalue [] stack rest)
  · exact (readFrom_step rfl _).trans (hvalue back stack rest)

/-- The fields behind the first one, as they are printed. -/
def furtherFields (fields : List (String × Datum)) : List Char :=
  fields.flatMap fun e => ',' :: fieldText e

theorem ends_furtherFields (fields : List (String × Datum)) (rest : List Char) :
    Ends (furtherFields fields ++ '\x7d' :: rest) := by
  cases fields with
  | nil => exact ends_cons rfl _
  | cons e fields => exact ends_cons rfl _

/-- The fields behind the first one, up to the end of the record. -/
theorem spells_furtherFields {fields : List (String × Datum)}
    (h : ∀ e ∈ fields, Spells (print e.2).toList e.2) :
    ∃ tokens,
      (∀ back rest, scan ⟨back, .blank⟩ (furtherFields fields ++ '\x7d' :: rest) =
        scan ⟨tokens.reverse ++ back, .blank⟩ rest) ∧
      ∀ first name done stack rest,
        readFrom (.rest first) (.record done name :: stack) (tokens ++ rest) =
          readFrom (.rest (recordOf (done.reverse ++ (name, first) :: fields.map readField)))
            stack rest := by
  induction fields with
  | nil =>
    refine ⟨[.closeRecord], fun back rest => scan_mark rfl back rest,
      fun first name done stack rest => ?_⟩
    rw [List.map_nil, ← List.reverse_cons]
    exact readFrom_step rfl rest
  | cons e fields ih =>
    obtain ⟨he, hfields⟩ := List.forall_mem_cons.mp h
    obtain ⟨tokens, hlexes, _, hfield⟩ := spells_field he
    obtain ⟨others, hscan, hread⟩ := ih hfields
    refine ⟨.comma :: tokens ++ others, fun back rest => ?_, fun first name done stack rest => ?_⟩
    · have htext : furtherFields (e :: fields) ++ '\x7d' :: rest =
          ',' :: (fieldText e ++ (furtherFields fields ++ '\x7d' :: rest)) := by
        simp [furtherFields]
      rw [htext, scan_mark rfl, hlexes _ _ (ends_furtherFields fields rest), hscan]
      simp
    · have hcomma : readStep (.rest first) (.record done name :: stack) .comma =
          some (.field ((name, first) :: done), stack) := rfl
      rw [List.cons_append, List.cons_append, readFrom_step hcomma, List.append_assoc, hfield,
        hread, List.reverse_cons, List.append_assoc]
      rfl

/-- The record of the fields that are read. -/
theorem recordOf_readField (fields : List (String × Datum)) :
    recordOf (fields.map readField) = .record fields := by
  rw [recordOf, mapM_map]
  · refine congrArg (fun plain => Datum.record fields plain) ?_
    rw [List.all_map, List.all_eq_true]
    intro e _
    simp only [Function.comp_apply, readField, isEscapedNumber_literal, Bool.not_false]
  · intro e _
    simp only [readField, value_literal, Option.map_some]

/-! ## Documents -/

theorem printItems_eq (items : List Datum) : printItems items = items.map print := by
  induction items with
  | nil => rfl
  | cons d items ih => rw [printItems, ih, List.map_cons]

theorem printFields_eq (fields : List (String × Datum)) :
    printFields fields = fields.map fun e => quoted e.1 ++ ":" ++ print e.2 := by
  induction fields with
  | nil => rfl
  | cons e fields ih => rw [printFields, ih, List.map_cons]

theorem spells_list {items : List Datum} (h : ∀ d ∈ items, Spells (print d).toList d) :
    Spells (print (.list items)).toList (.list items) := by
  cases items with
  | nil =>
    refine ⟨[.openList, .closeList], fun back rest _ => ?_,
      ⟨_, _, rfl, Token.noConfusion⟩, fun stack rest => ?_⟩
    · exact (scan_mark rfl back _).trans (scan_mark rfl _ rest)
    · exact (readFrom_step rfl _).trans (readFrom_step rfl rest)
  | cons d items =>
    obtain ⟨hd, hitems⟩ := List.forall_mem_cons.mp h
    obtain ⟨tokens, hlexes, hdenotes⟩ := hd
    obtain ⟨others, hscan, hread⟩ := spells_furtherItems hitems
    have htext : (print (.list (d :: items))).toList =
        '[' :: ((print d).toList ++ (furtherItems items ++ [']'])) := by
      rw [print, printItems_eq, List.map_cons, String.toList_append, String.toList_append,
        Text.toList_joinWith, List.flatMap_map]
      simp [furtherItems]
    refine ⟨.openList :: tokens ++ others, fun back rest _ => ?_,
      ⟨_, _, rfl, Token.noConfusion⟩, fun stack rest => ?_⟩
    · rw [htext]
      simp only [List.cons_append, List.append_assoc, List.nil_append]
      rw [scan_mark rfl, hlexes _ _ (ends_furtherItems items rest), hscan]
      simp
    · have hopen : readStep .value stack .openList = some (.item, stack) := rfl
      rw [List.cons_append, List.cons_append, readFrom_step hopen, List.append_assoc,
        hdenotes.readFrom_item, hread]
      rfl

theorem spells_record {fields : List (String × Datum)}
    (h : ∀ e ∈ fields, Spells (print e.2).toList e.2) :
    Spells (print (.record fields)).toList (.record fields) := by
  cases fields with
  | nil =>
    refine ⟨[.openRecord, .closeRecord], fun back rest _ => ?_,
      ⟨_, _, rfl, Token.noConfusion⟩, fun stack rest => ?_⟩
    · exact (scan_mark rfl back _).trans (scan_mark rfl _ rest)
    · exact (readFrom_step rfl _).trans (readFrom_step rfl rest)
  | cons e fields =>
    obtain ⟨he, hfields⟩ := List.forall_mem_cons.mp h
    obtain ⟨tokens, hlexes, hfirst, _⟩ := spells_field he
    obtain ⟨others, hscan, hread⟩ := spells_furtherFields hfields
    have htext : (print (.record (e :: fields))).toList =
        '\x7b' :: (fieldText e ++ (furtherFields fields ++ ['\x7d'])) := by
      rw [print, printFields_eq, List.map_cons, String.toList_append, String.toList_append,
        Text.toList_joinWith, List.flatMap_map]
      simp [furtherFields, fieldText]
    have hrecord := recordOf_readField (e :: fields)
    rw [List.map_cons, readField] at hrecord
    refine ⟨.openRecord :: tokens ++ others, fun back rest _ => ?_,
      ⟨_, _, rfl, Token.noConfusion⟩, fun stack rest => ?_⟩
    · rw [htext]
      simp only [List.cons_append, List.append_assoc, List.nil_append]
      rw [scan_mark rfl, hlexes _ _ (ends_furtherFields fields rest), hscan]
      simp
    · have hopen : readStep .value stack .openRecord = some (.firstField, stack) := rfl
      rw [List.cons_append, List.cons_append, readFrom_step hopen, List.append_assoc, hfirst,
        hread, List.reverse_nil, List.nil_append, hrecord]

/-- What is printed of a document gives the document wherever a value is expected. -/
theorem spells_print {d : Datum} (h : d.Every IsPrintable) : Spells (print d).toList d := by
  induction h with
  | @intro d hd _ ih =>
    cases d with
    | null => exact spells_word (by decide) (by decide) rfl rfl
    | bool b =>
      cases b with
      | true => exact spells_word (by decide) (by decide) rfl rfl
      | false => exact spells_word (by decide) (by decide) rfl rfl
    | number n => exact spells_numeral hd
    | text s => exact spells_quoted s
    | broken => exact hd.elim
    | list items => exact spells_list ih
    | record fields plainNumbers =>
      obtain rfl : plainNumbers = true := hd
      exact spells_record fun e he => ih e.2 (List.mem_map_of_mem he)

/-- **Printed documents.** A document that JSON has a form for is read from its text. -/
theorem read?_print {d : Datum} (h : d.Every IsPrintable) : read? (print d) = some d := by
  obtain ⟨tokens, hlexes, hdenotes⟩ := spells_print h
  have htokens : tokens? (print d) = some tokens := by
    have hscan := hlexes [] [] ends_nil
    rw [List.append_nil, List.append_nil] at hscan
    refine hscan.trans ?_
    simp [scan, Lexer.finish?]
  have hread := hdenotes.reads [] []
  rw [List.append_nil] at hread
  rw [read?, htokens, Option.bind_some, hread, readFrom]

end TrainingLab.Json
