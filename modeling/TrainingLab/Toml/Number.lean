import TrainingLab.Json.Token

/-
  The numbers of TOML, from the characters of a word. Underscores may stand between digits.
-/

namespace TrainingLab.Toml

/-- The value of a digit in a base. -/
def digit? (base : Nat) (c : Char) : Option Nat :=
  (Json.hexValue? c).filter fun n => decide (n < base)

/-- What has been seen of the digits. -/
structure DigitState where
  isFirst : Bool := true
  zeroFirst : Bool := false
  afterUnderscore : Bool := false

/-- The digits at the start, without underscores, and what follows them. There is at least one, no
    underscore is at an end or next to another one, and a leading zero stands alone unless zeros
    are allowed to lead. -/
def takeDigits? (base : Nat) (zerosLead : Bool) (s : DigitState) :
    List Char → Option (List Char × List Char)
  | [] => if s.isFirst || s.afterUnderscore then none else some ([], [])
  | c :: cs =>
    let more (s : DigitState) := (takeDigits? base zerosLead s cs).map fun (a, b) => (c :: a, b)
    if c = '0' ∧ s.isFirst then more { s with isFirst := false, zeroFirst := true }
    else if (digit? base c).isSome then
      if !s.isFirst && s.zeroFirst && !zerosLead then none
      else more { s with isFirst := false, afterUnderscore := false }
    else if c = '_' ∧ s.isFirst then none
    else if c = '_' ∧ !s.afterUnderscore then
      takeDigits? base zerosLead { s with afterUnderscore := true } cs
    else if s.isFirst || s.afterUnderscore then none
    else some ([], c :: cs)

/-- A sign at the start, and what follows it. -/
def takeSign : List Char → Bool × List Char
  | '-' :: cs => (true, cs)
  | '+' :: cs => (false, cs)
  | cs => (false, cs)

/-- The value of digits in a base. -/
def valueOf (base : Nat) (cs : List Char) : Nat :=
  cs.foldl (fun n c => base * n + (digit? base c).getD 0) 0

/-- A number of 64 bits with a sign. -/
def int64? (negative : Bool) (n : Nat) : Option Numeral :=
  if negative then if n ≤ UInt64.size / 2 then some (.integer (-n)) else none
  else if n < UInt64.size / 2 then some (.integer n) else none

/-- A whole number in a base; a sign is allowed in base ten only. -/
def integer? (base : Nat) (cs : List Char) : Option Numeral :=
  let (negative, cs) := if base = 10 then takeSign cs else (false, cs)
  match takeDigits? base (base != 10) {} cs with
  | some (digits, []) => int64? negative (valueOf base digits)
  | _ => none

/-- The digits before an exponent: the part before the point with its sign, and the part after it
    if there is one. With them comes what follows. -/
structure Mantissa where
  negative : Bool
  whole : List Char
  fraction : List Char
  rest : List Char
deriving DecidableEq, Repr

/-- Reads the digits before an exponent, from the word before a point and the word after it. -/
def mantissa? (before : List Char) (after : Option (List Char)) : Option Mantissa := do
  let (negative, cs) := takeSign before
  let (whole, rest) ← takeDigits? 10 false {} cs
  match after with
  | none => some { negative, whole, fraction := [], rest }
  | some after =>
    if rest.isEmpty then
      let (fraction, rest) ← takeDigits? 10 true {} after
      some { negative, whole, fraction, rest }
    else none

/-- The digits, moved by the power of ten, are below the least number that rounds to infinity. The
    power of ten that is taken is never longer than the digits or that number. -/
def isBelowInfinity (digits : Nat) (exponent : Int) : Bool :=
  if digits = 0 then true
  else if exponent < 0 then
    decide (digits < Numeral.doubleBound * Nat.pow 10 (min exponent.natAbs (digits.log2 + 1)))
  else decide (exponent < 309) && decide (digits * Nat.pow 10 exponent.natAbs < Numeral.doubleBound)

/-- The number, with an exponent, if the double nearest to it is finite. -/
def Mantissa.scaled? (m : Mantissa) (exponent : Int) : Option Numeral :=
  let digits := valueOf 10 (m.whole ++ m.fraction)
  let exponent := exponent - m.fraction.length
  if isBelowInfinity digits exponent then some (.decimal m.negative digits exponent) else none

/-- The value of an exponent behind its letter. -/
def exponent? (cs : List Char) : Option Int :=
  let (negative, cs) := takeSign cs
  match takeDigits? 10 true {} cs with
  | some (digits, []) =>
    let n : Int := valueOf 10 digits
    some (if negative then -n else n)
  | _ => none

/-- The word stands for no finite number. -/
def special? (cs : List Char) : Option Numeral :=
  if cs = ['i', 'n', 'f'] then some (.infinite false)
  else if cs = ['-', 'i', 'n', 'f'] then some (.infinite true)
  else if cs = ['n', 'a', 'n'] ∨ cs = ['-', 'n', 'a', 'n'] then some .undefined
  else none

end TrainingLab.Toml
