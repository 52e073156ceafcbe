import TrainingLab.SortedMap
import TrainingLab.Network.Cidr
import TrainingLab.Text.Case

/-
  Command patterns. A pattern is written as words:

  * `show` is a keyword; a line may shorten it to any of its beginnings, in any case,
  * `<name>` stands for one word and captures it; the name decides which words it takes,
  * `<name...>` stands for all the words that are left and captures them joined by spaces,
  * square brackets around any of these make it optional.

  Optional elements are tried before they are left out, from left to right. Trying a placeholder
  takes its name for the time of the trial, so an earlier capture of the same name is lost.
-/

namespace TrainingLab.Grammar

/-! ## Elements -/

/-- The words that a placeholder takes. -/
inductive ArgumentKind
  | address
  | mask
  | cidr
  | number
  | word
deriving DecidableEq, Repr

namespace ArgumentKind

/-- The kind that a placeholder's name stands for. -/
def ofName (name : String) : ArgumentKind :=
  if ["ip", "next-hop", "gateway"].contains name then address
  else if name == "mask" then mask
  else if ["cidr", "prefix"].contains name then cidr
  else if ["num", "id", "vlan", "as", "unit", "seq"].contains name then number
  else word

/-- The kind takes the word. -/
def accepts (kind : ArgumentKind) (token : String) : Bool :=
  match kind with
  | address => (Network.Address.ofText? token).isSome
  | mask => Text.hasChar '.' token && (Network.readMask? token).isSome
  | cidr =>
    match Text.splitFirst? (· == '/') token with
    | some (ip, length) =>
      (Network.Address.ofText? ip).isSome && (Network.readMask? length).isSome
    | none => false
  | number => (Text.readUInt32? token).isSome
  | word => true

end ArgumentKind

/-- One element of a pattern. -/
inductive Element
  | keyword (word : String) (optional : Bool)
  | argument (name : String) (kind : ArgumentKind) (optional : Bool)
  | rest (name : String) (optional : Bool)
deriving DecidableEq, Repr

/-- The part between two marks at its ends. -/
def between? (start ending : Char) (cs : List Char) : Option (List Char) :=
  (Text.afterStart? [start] cs).bind (Text.beforeEnd? [ending])

/-- The element that the characters of a word stand for. -/
def Element.ofChars (token : List Char) : Element :=
  let (inner, optional) := match between? '[' ']' token with
    | some inner => (inner, true)
    | none => (token, false)
  let bare := Text.dropEndWhile (· == '>') (inner.dropWhile (· == '<'))
  match Text.beforeEnd? ['.', '.', '.'] bare with
  | some name => .rest (String.ofList name) optional
  | none =>
    match between? '<' '>' inner with
    | some name =>
      let name := String.ofList name
      .argument name (ArgumentKind.ofName name) optional
    | none => .keyword (String.ofList inner) optional

/-- The element that a word of a pattern's text stands for. -/
def Element.ofText (text : String) : Element := ofChars text.toList

/-- A pattern is a list of elements. -/
structure Pattern where
  elements : List Element
deriving DecidableEq, Repr

/-- Reads a pattern from its text. -/
def Pattern.ofText (text : String) : Pattern := ⟨(Text.words text).map Element.ofText⟩

/-! ## Captures -/

/-- What the placeholders hold, by their names. -/
abbrev Captures := SortedMap String String

/-- What a placeholder holds, or the empty text. -/
def Captures.text (c : Captures) (name : String) : String := (c.find? name).getD ""

/-! ## Matching -/

/-- The verdict on a line: it is complete, more is expected, or it does not fit. -/
inductive Match
  | full (captures : Captures)
  | incomplete
  | none
deriving DecidableEq

namespace Match

/-- The line is complete. -/
def isFull : Match → Bool
  | full _ => true
  | _ => false

/-- The better of two verdicts, the first of two that are equally good. -/
def or : Match → Match → Match
  | full c, _ => full c
  | _, full c => full c
  | incomplete, _ => incomplete
  | _, incomplete => incomplete
  | none, none => none

end Match

/-- The word in lower case is a beginning of the keyword, and not empty. -/
def abbreviates (token keyword : String) : Bool :=
  token != "" && Text.begins (Text.lower token) keyword

/-- The outcome of an attempt: the verdict, and what the placeholders hold after all that was
    tried. -/
abbrev Attempt := Match × Captures

/-- Attempts to align the elements with the words. -/
def align : List Element → List String → Captures → Attempt
  | [], tokens, caps => (if tokens.isEmpty then .full caps else .none, caps)
  | .rest name optional :: rest, tokens, caps =>
    if tokens.isEmpty then
      if optional then align rest [] caps else (.incomplete, caps)
    else
      let taken := align rest [] (caps.insert name (Text.joinWith " " tokens))
      (taken.1, taken.2.erase name)
  | .keyword word optional :: rest, tokens, caps =>
    let taken : Attempt :=
      match tokens with
      | [] => (if optional then .none else .incomplete, caps)
      | token :: tokens =>
        if abbreviates token word then align rest tokens caps else (.none, caps)
    if optional && !taken.1.isFull then
      let skipped := align rest tokens taken.2
      (taken.1.or skipped.1, skipped.2)
    else taken
  | .argument name kind optional :: rest, tokens, caps =>
    let taken : Attempt :=
      match tokens with
      | [] => (if optional then .none else .incomplete, caps)
      | token :: tokens =>
        if kind.accepts token then
          let taken := align rest tokens (caps.insert name token)
          (taken.1, taken.2.erase name)
        else (.none, caps)
    if optional && !taken.1.isFull then
      let skipped := align rest tokens taken.2
      (taken.1.or skipped.1, skipped.2)
    else taken

/-- The verdict of a pattern on the words of a line. -/
def Pattern.matches (p : Pattern) (tokens : List String) : Match :=
  (align p.elements tokens SortedMap.empty).1

end TrainingLab.Grammar
