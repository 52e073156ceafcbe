/-
  Tables over code points: classes as inclusive ranges, and case images as runs.
-/

namespace TrainingLab.Text

/-- A class of code points, as inclusive ranges. -/
abbrev Ranges := List (Nat × Nat)

/-- The code point lies in one of the ranges. -/
def Ranges.holds (ranges : Ranges) (n : Nat) : Bool :=
  ranges.any fun r => decide (r.1 ≤ n) && decide (n ≤ r.2)

/-- Runs `(first, last, step, image)`: every `step`-th code point from `first` to `last` has an
    image, at the distance from `image` that it has from `first`. -/
abbrev Runs := List (Nat × Nat × Nat × Nat)

/-- The image of a code point in the first run that has one. -/
def Runs.image? : Runs → Nat → Option Nat
  | [], _ => none
  | (first, last, step, image) :: rest, n =>
    if first ≤ n ∧ n ≤ last ∧ (n - first) % step = 0 then some (image + (n - first))
    else Runs.image? rest n

end TrainingLab.Text
