import TrainingLab.Datum.Basic

/-
  The tokens of JSON, and the lexer: a machine that reads one character at a time and holds what
  it has seen of the present token.
-/

namespace TrainingLab.Json

/-- A text as it is written in its quotes. -/
structure Literal where
  /-- The characters, unless one of them is half of a surrogate pair. -/
  value : Option String
  /-- No character is named by its number. -/
  isPlain : Bool
deriving DecidableEq, Repr

/-- The text is a row of digits, but some digit is named by its number. -/
def Literal.isEscapedNumber (l : Literal) : Bool :=
  !l.isPlain && l.value.any fun s => s.toList.all Char.isDigit

/-- A token of JSON. -/
inductive Token
  | openList
  | closeList
  | openRecord
  | closeRecord
  | comma
  | colon
  | null
  | bool (b : Bool)
  | number (n : Numeral)
  | text (l : Literal)
deriving DecidableEq, Repr

/-! ## Numbers -/

/-- The value of a list of digits. -/
def digitsValue (cs : List Char) : Nat :=
  cs.foldl (fun n c => 10 * n + (c.toNat - '0'.toNat)) 0

/-- The value of the digits after those worth `n`, from the left as far as 64 bits hold it, and how
    many digits are left over. -/
def significandFrom (n : Nat) : List Char → Nat × Nat
  | [] => (n, 0)
  | c :: cs =>
    let next := 10 * n + (c.toNat - '0'.toNat)
    if next < UInt64.size then significandFrom next cs else (n, cs.length + 1)

/-- The digits at the start, if there are any, and what follows them. -/
def takeDigits? (cs : List Char) : Option (List Char × List Char) :=
  if (cs.takeWhile Char.isDigit).isEmpty then none
  else some (cs.takeWhile Char.isDigit, cs.dropWhile Char.isDigit)

/-- The digits of a fraction behind its point. -/
def takeFraction? : List Char → Option (List Char × List Char)
  | '.' :: cs => takeDigits? cs
  | cs => some ([], cs)

/-- The value of an exponent behind its letter; `none` inside where there is no exponent. -/
def takeExponent? : List Char → Option (Option Int)
  | [] => some none
  | c :: cs =>
    if c = 'e' ∨ c = 'E' then
      let (negative, cs) := match cs with
        | '-' :: cs => (true, cs)
        | '+' :: cs => (false, cs)
        | cs => (false, cs)
      match takeDigits? cs with
      | some (digits, []) =>
        let n : Int := digitsValue digits
        some (some (if negative then -n else n))
      | _ => none
    else none

/-- A number: an optional minus, digits without a leading zero, a fraction, an exponent. The zero
    with a minus is no integer, nor is a number of more than 64 bits. Digits that 64 bits do not
    hold count as zeros before the point and for nothing behind it. -/
def numeral? (cs : List Char) : Option Numeral :=
  let (negative, cs) := match cs with
    | '-' :: cs => (true, cs)
    | cs => (false, cs)
  match takeDigits? cs with
  | none => none
  | some (whole, cs) =>
    if whole.length > 1 ∧ whole.head? = some '0' then none
    else
      match takeFraction? cs with
      | none => none
      | some (fraction, cs) =>
        match takeExponent? cs with
        | none => none
        | some exponent =>
          let (n, beyond) := significandFrom 0 whole
          if fraction.isEmpty && exponent.isNone && beyond == 0 && !(negative && n == 0) then
            some (.integer (if negative then -n else n))
          else
            let (n, dropped) := significandFrom n fraction
            some (.decimal negative n (exponent.getD 0 + beyond + dropped - fraction.length))

/-- The token that a word stands for. -/
def wordToken? (cs : List Char) : Option Token :=
  if cs = ['n', 'u', 'l', 'l'] then some .null
  else if cs = ['t', 'r', 'u', 'e'] then some (.bool true)
  else if cs = ['f', 'a', 'l', 's', 'e'] then some (.bool false)
  else (numeral? cs).map .number

/-! ## Texts -/

/-- A piece of a text: a character, or a unit of 16 bits named by an escape. -/
inductive Piece
  | char (c : Char)
  | unit (n : Nat)
deriving DecidableEq, Repr

/-- The unit is the first half of a surrogate pair. -/
def isLeading (n : Nat) : Bool := 0xD800 ≤ n && n < 0xDC00

/-- The unit is the second half of a surrogate pair. -/
def isTrailing (n : Nat) : Bool := 0xDC00 ≤ n && n < 0xE000

/-- The characters of a text. Halves of a surrogate pair stand side by side or not at all. -/
def characters? : List Piece → Option (List Char)
  | [] => some []
  | .char c :: rest => (characters? rest).map (c :: ·)
  | .unit a :: .unit b :: rest =>
    if isLeading a then
      if isTrailing b then
        (characters? rest).map (Char.ofNat (0x10000 + (a - 0xD800) * 0x400 + (b - 0xDC00)) :: ·)
      else none
    else if isTrailing a then none
    else (characters? (.unit b :: rest)).map (Char.ofNat a :: ·)
  | .unit a :: rest =>
    if isLeading a || isTrailing a then none else (characters? rest).map (Char.ofNat a :: ·)

/-- The text of some pieces. -/
def Literal.ofPieces (pieces : List Piece) : Literal where
  value := (characters? pieces).map String.ofList
  isPlain := pieces.all fun
    | .char _ => true
    | .unit _ => false

/-- The character that an escape of one letter stands for. -/
def escaped? (c : Char) : Option Char :=
  if c = '\x22' ∨ c = '\\' ∨ c = '/' then some c
  else if c = 'b' then some '\x08'
  else if c = 'f' then some '\x0c'
  else if c = 'n' then some '\n'
  else if c = 'r' then some '\r'
  else if c = 't' then some '\t'
  else none

/-- The value of a hexadecimal digit. -/
def hexValue? (c : Char) : Option Nat :=
  if c.isDigit then some (c.toNat - '0'.toNat)
  else if 'a' ≤ c ∧ c ≤ 'f' then some (c.toNat - 'a'.toNat + 10)
  else if 'A' ≤ c ∧ c ≤ 'F' then some (c.toNat - 'A'.toNat + 10)
  else none

/-! ## The machine -/

/-- What has been seen of the present token; lists hold the latest first. -/
inductive Pending
  | blank
  | word (back : List Char)
  | text (back : List Piece)
  | escape (back : List Piece)
  /-- Inside `\uXXXX`: digits still to come, and the value of those before. -/
  | unit (back : List Piece) (left value : Nat)
deriving DecidableEq, Repr

/-- The character belongs to a word. -/
def isWordChar (c : Char) : Bool := c.isAlphanum || c = '-' || c = '+' || c = '.'

/-- A character between tokens. -/
def lexStart (c : Char) : Option (List Token × Pending) :=
  if c = ' ' ∨ c = '\t' ∨ c = '\n' ∨ c = '\r' then some ([], .blank)
  else if c = '[' then some ([.openList], .blank)
  else if c = ']' then some ([.closeList], .blank)
  else if c = '\x7b' then some ([.openRecord], .blank)
  else if c = '\x7d' then some ([.closeRecord], .blank)
  else if c = ',' then some ([.comma], .blank)
  else if c = ':' then some ([.colon], .blank)
  else if c = '\x22' then some ([], .text [])
  else if isWordChar c then some ([], .word [c])
  else none

/-- A character after what is pending: the tokens it completes, and what is pending then. -/
def lexStep (p : Pending) (c : Char) : Option (List Token × Pending) :=
  match p with
  | .blank => lexStart c
  | .word back =>
    if isWordChar c then some ([], .word (c :: back))
    else
      match wordToken? back.reverse, lexStart c with
      | some token, some (tokens, pending) => some (token :: tokens, pending)
      | _, _ => none
  | .text back =>
    if c = '\x22' then some ([.text (.ofPieces back.reverse)], .blank)
    else if c = '\\' then some ([], .escape back)
    else if c.toNat < 0x20 then none
    else some ([], .text (.char c :: back))
  | .escape back =>
    if c = 'u' then some ([], .unit back 4 0)
    else (escaped? c).map fun e => ([], .text (.char e :: back))
  | .unit back left value =>
    (hexValue? c).map fun digit =>
      if left ≤ 1 then ([], .text (.unit (16 * value + digit) :: back))
      else ([], .unit back (left - 1) (16 * value + digit))

/-- The machine: the tokens so far, latest first, and what is pending. -/
structure Lexer where
  back : List Token := []
  pending : Pending := .blank
deriving DecidableEq, Repr

namespace Lexer

/-- Takes one character. -/
def take (l : Lexer) (c : Char) : Option Lexer :=
  (lexStep l.pending c).map fun (tokens, pending) =>
    { back := tokens.reverse ++ l.back, pending }

/-- The tokens, if nothing is left open at the end. -/
def finish? (l : Lexer) : Option (List Token) :=
  match l.pending with
  | .blank => some l.back.reverse
  | .word back => (wordToken? back.reverse).map fun token => (token :: l.back).reverse
  | _ => none

end Lexer

/-- The tokens of a text. -/
def tokens? (s : String) : Option (List Token) :=
  (s.toList.foldlM Lexer.take {}).bind Lexer.finish?

end TrainingLab.Json
