/-
  What a program does at a terminal.
-/

namespace TrainingLab.Terminal

/-- A text appears, or some time passes. -/
inductive Effect
  | print (text : String)
  | pause (milliseconds : UInt64)
deriving DecidableEq, Repr

/-- A line appears. -/
def line (s : String) : Effect := .print (s ++ "\n")

/-- Lines appear. -/
def lines (l : List String) : List Effect := l.map line

/-- All the text that appears. -/
def textOf (effects : List Effect) : String :=
  effects.foldl
    (fun s e =>
      match e with
      | .print text => s ++ text
      | .pause _ => s)
    ""

end TrainingLab.Terminal
