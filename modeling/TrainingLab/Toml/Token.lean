import TrainingLab.Json.Token

/-
  The tokens of TOML, and the lexer: a machine that reads one character at a time and holds what
  it has seen of the present token. A carriage return counts only in front of a line feed, and
  then for nothing.
-/

namespace TrainingLab.Toml

/-- A token of TOML. -/
inductive Token
  | newline
  /-- Blanks; a single space may stand inside of a date. -/
  | blanks (isOneSpace : Bool)
  | comment
  | equals
  | period
  | comma
  | colon
  | plus
  | openTable
  | closeTable
  | openList
  | closeList
  | word (s : String)
  | text (s : String) (multiline : Bool)
deriving DecidableEq, Repr

/-! ## Classes of characters -/

/-- The character may stand in a key without quotes. -/
def isWordChar (c : Char) : Bool := c.isAlphanum || c = '-' || c = '_'

/-- The character may stand in a text. -/
def isTextChar (c : Char) : Bool := c = '\t' || (0x20 ≤ c.toNat && c.toNat != 0x7F)

/-- The character may stand in a comment. -/
def isCommentChar (c : Char) : Bool := c = '\t' || 0x20 ≤ c.toNat

/-- The character that an escape of one letter stands for. -/
def escaped? (c : Char) : Option Char :=
  if c = '\x22' ∨ c = '\\' then some c
  else if c = 'b' then some '\x08'
  else if c = 'f' then some '\x0c'
  else if c = 'n' then some '\n'
  else if c = 'r' then some '\r'
  else if c = 't' then some '\t'
  else none

/-- The character of a code point. -/
def ofCodePoint? (n : Nat) : Option Char := if n.isValidChar then some (Char.ofNat n) else none

/-- The token of a character that is one by itself. -/
def mark? (c : Char) : Option Token :=
  if c = '\n' then some .newline
  else if c = '=' then some .equals
  else if c = '.' then some .period
  else if c = ',' then some .comma
  else if c = ':' then some .colon
  else if c = '+' then some .plus
  else if c = '\x7b' then some .openTable
  else if c = '\x7d' then some .closeTable
  else if c = '[' then some .openList
  else if c = ']' then some .closeList
  else none

/-! ## The machine -/

/-- A kind of text: whether its quote is the double one, and whether three of them enclose it. -/
structure TextKind where
  double : Bool
  multiline : Bool
deriving DecidableEq, Repr

/-- The quote of the kind. -/
def TextKind.quote (k : TextKind) : Char := if k.double then '\x22' else '\x27'

/-- What has been seen of the present token; lists hold the latest character first. -/
inductive Pending
  | nothing
  | blanks (back : List Char)
  | comment
  | word (back : List Char)
  /-- One quote, or two. -/
  | quotes (double : Bool) (two : Bool)
  /-- Inside of a text. A line feed at the very start of one with several lines is dropped. -/
  | text (kind : TextKind) (atStart : Bool) (back : List Char)
  /-- Quotes inside of a text with several lines. From the third one on the text may end. -/
  | closing (kind : TextKind) (count : Nat) (back : List Char)
  | escape (kind : TextKind) (back : List Char)
  /-- Inside of a code point: digits still to come, and the value of those before. -/
  | codePoint (kind : TextKind) (left value : Nat) (back : List Char)
  /-- Blanks behind a backslash, before the line feed that they need. -/
  | beforeBreak (kind : TextKind) (back : List Char)
  /-- Blanks and line feeds behind such a line feed. -/
  | afterBreak (kind : TextKind) (back : List Char)
deriving DecidableEq, Repr

/-- The next state, and the tokens completed on the way. -/
abbrev Step := Option (List Token × Pending)

/-- A text is complete. -/
def textToken (kind : TextKind) (back : List Char) : Token :=
  .text (String.ofList back.reverse) kind.multiline

/-- A character between tokens. -/
def stepStart (c : Char) : Step :=
  if c = ' ' ∨ c = '\t' then some ([], .blanks [c])
  else if c = '#' then some ([], .comment)
  else if c = '\x22' then some ([], .quotes true false)
  else if c = '\x27' then some ([], .quotes false false)
  else if isWordChar c then some ([], .word [c])
  else (mark? c).map fun token => ([token], .nothing)

/-- A character that ends a token and starts the next. -/
def stepAfter (token : Token) (c : Char) : Step :=
  (stepStart c).map fun (tokens, pending) => (token :: tokens, pending)

/-- A character inside of a text. -/
def stepText (kind : TextKind) (atStart : Bool) (back : List Char) (c : Char) : Step :=
  if c = '\n' then
    if kind.multiline then some ([], .text kind false (if atStart then back else c :: back))
    else none
  else if c = kind.quote then
    if kind.multiline then some ([], .closing kind 1 back)
    else some ([textToken kind back], .nothing)
  else if c = '\\' ∧ kind.double then some ([], .escape kind back)
  else if isTextChar c then some ([], .text kind false (c :: back))
  else none

/-- A character after a backslash. -/
def stepEscape (kind : TextKind) (back : List Char) (c : Char) : Step :=
  if c = 'u' then some ([], .codePoint kind 4 0 back)
  else if c = 'U' then some ([], .codePoint kind 8 0 back)
  else if kind.multiline ∧ (c = ' ' ∨ c = '\t') then some ([], .beforeBreak kind back)
  else if kind.multiline ∧ c = '\n' then some ([], .afterBreak kind back)
  else (escaped? c).map fun e => ([], .text kind false (e :: back))

/-- A character after what is pending. -/
def step (p : Pending) (c : Char) : Step :=
  match p with
  | .nothing => stepStart c
  | .blanks back =>
    if c = ' ' ∨ c = '\t' then some ([], .blanks (c :: back))
    else stepAfter (.blanks (back == [' '])) c
  | .comment => if isCommentChar c then some ([], .comment) else stepAfter .comment c
  | .word back =>
    if isWordChar c then some ([], .word (c :: back))
    else stepAfter (.word (String.ofList back.reverse)) c
  | .quotes double two =>
    if c = (TextKind.mk double two).quote then
      if two then some ([], .text ⟨double, true⟩ true []) else some ([], .quotes double true)
    else if two then stepAfter (.text "" false) c
    else stepText ⟨double, false⟩ true [] c
  | .text kind atStart back => stepText kind atStart back c
  | .closing kind count back =>
    if c = kind.quote then
      if count < 4 then some ([], .closing kind (count + 1) back)
      else some ([textToken kind (c :: c :: back)], .nothing)
    else if count < 3 then
      stepText kind false (List.replicate count kind.quote ++ back) c
    else stepAfter (textToken kind (List.replicate (count - 3) kind.quote ++ back)) c
  | .escape kind back => stepEscape kind back c
  | .codePoint kind left value back =>
    (Json.hexValue? c).bind fun digit =>
      if left ≤ 1 then
        (ofCodePoint? (16 * value + digit)).map fun e => ([], .text kind false (e :: back))
      else some ([], .codePoint kind (left - 1) (16 * value + digit) back)
  | .beforeBreak kind back =>
    if c = ' ' ∨ c = '\t' then some ([], .beforeBreak kind back)
    else if c = '\n' then some ([], .afterBreak kind back)
    else none
  | .afterBreak kind back =>
    if c = ' ' ∨ c = '\t' ∨ c = '\n' then some ([], .afterBreak kind back)
    else stepText kind false back c

/-- The token that is pending at the end, if it is complete. -/
def finish? : Pending → Option (List Token)
  | .nothing => some []
  | .blanks back => some [.blanks (back == [' '])]
  | .comment => some [.comment]
  | .word back => some [.word (String.ofList back.reverse)]
  | .quotes _ true => some [.text "" false]
  | .closing kind count back =>
    if count < 3 then none
    else some [textToken kind (List.replicate (count - 3) kind.quote ++ back)]
  | _ => none

/-- The machine: the tokens so far, latest first, and what is pending. -/
structure Lexer where
  back : List Token := []
  pending : Pending := .nothing
deriving DecidableEq, Repr

/-- Takes one character. -/
def Lexer.take (l : Lexer) (c : Char) : Option Lexer :=
  (step l.pending c).map fun (tokens, pending) => { back := tokens.reverse ++ l.back, pending }

/-- Without the carriage returns in front of line feeds. -/
def foldLineEnds : List Char → List Char
  | '\r' :: '\n' :: cs => '\n' :: foldLineEnds cs
  | c :: cs => c :: foldLineEnds cs
  | [] => []

/-- Without a byte order mark at the start. -/
def dropMark : List Char → List Char
  | '\uFEFF' :: cs => cs
  | cs => cs

/-- The tokens of a text. -/
def tokens? (s : String) : Option (List Token) := do
  let l ← (foldLineEnds (dropMark s.toList)).foldlM Lexer.take {}
  let last ← finish? l.pending
  some (l.back.reverse ++ last)

end TrainingLab.Toml
