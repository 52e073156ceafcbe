/-
  Reading decimal numbers. A bound stands for the width of the number; what does not fit is no
  number of that width.
-/

namespace TrainingLab.Text

/-- The value of the digits after those worth `n`. -/
def digitsFrom (n : Nat) : List Char → Option Nat
  | [] => some n
  | c :: cs => if c.isDigit then digitsFrom (10 * n + (c.toNat - '0'.toNat)) cs else none

/-- At least one decimal digit and nothing else. Leading zeros count for nothing. -/
def readDigits? (cs : List Char) : Option Nat := if cs.isEmpty then none else digitsFrom 0 cs

/-- Decimal digits after an optional plus sign, worth less than the bound. -/
def readBelow? (bound : Nat) (s : String) : Option Nat :=
  let digits := match s.toList with
    | '+' :: cs => cs
    | cs => cs
  (readDigits? digits).filter fun n => decide (n < bound)

/-- A number of 16 bits. -/
def readUInt16? (s : String) : Option UInt16 := (readBelow? UInt16.size s).map UInt16.ofNat

/-- A number of 32 bits. -/
def readUInt32? (s : String) : Option UInt32 := (readBelow? UInt32.size s).map UInt32.ofNat

/-- A number of 64 bits, as the positions of a list are counted. -/
def readPosition? (s : String) : Option Nat := readBelow? UInt64.size s

/-- Two hexadecimal digits at least, in lower case. -/
def hexByte (n : Nat) : String :=
  let digits := Nat.toDigits 16 n
  String.ofList (List.replicate (2 - digits.length) '0' ++ digits)

end TrainingLab.Text
