/-
  Numbers as a document writes them, and whether double precision holds them. What is asked is only
  the size, so the arithmetic is on natural numbers and exact.
-/

namespace TrainingLab

/-- A number as it was written. -/
inductive Numeral
  | integer (n : Int)
  /-- Digits, moved by a power of ten. Zero has a sign. -/
  | decimal (negative : Bool) (digits : Nat) (exponent : Int)
  | infinite (negative : Bool)
  | undefined
deriving DecidableEq, Repr

namespace Numeral

/-- The least number that rounds to infinity in double precision. -/
def doubleBound : Nat := 1 <<< 1024 - 1 <<< 970

/-- The nearest number that 53 binary digits and zeros behind them write. Of two that are equally
    near, the last of the 53 digits is even. -/
def nearestDouble (n : Nat) : Nat :=
  let unit := 1 <<< (n.log2 + 1 - 53)
  let below := n / unit
  let rest := n % unit
  if unit < 2 * rest ∨ (unit = 2 * rest ∧ below % 2 = 1) then (below + 1) * unit else below * unit

/-- The number is finite in double precision, where the digits, the power of ten and their product
    are rounded in turn. A division by a power of ten makes nothing infinite. -/
def isFinite : Numeral → Bool
  | integer n => decide (n.natAbs < doubleBound)
  | decimal _ digits exponent =>
    decide (digits = 0) ||
      (decide (exponent < 309) &&
        decide (nearestDouble digits * nearestDouble (Nat.pow 10 exponent.toNat) < doubleBound))
  | infinite _ => false
  | undefined => false

end Numeral

end TrainingLab
