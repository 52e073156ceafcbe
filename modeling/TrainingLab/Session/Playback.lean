import TrainingLab.Lab.Simulation

/-
  The presentation of a path, one step at a time. The steps are fixed from the start.
-/

namespace TrainingLab

/-- A path of which the first steps have been revealed. -/
structure Playback where
  steps : List SimulationStep
  revealed : Nat := 0
  /-- Milliseconds between two steps. -/
  delay : UInt64
deriving DecidableEq, Repr

namespace Playback

/-- Reveals the next step, if there is one. -/
def tick (p : Playback) : Option SimulationStep × Playback :=
  match p.steps[p.revealed]? with
  | some s => (some s, { p with revealed := p.revealed + 1 })
  | none => (none, p)

/-- All steps are revealed. -/
def isDone (p : Playback) : Bool := decide (p.steps.length ≤ p.revealed)

/-- The outcome of the last step of the path. -/
def outcome? (p : Playback) : Option StepOutcome := p.steps.getLast?.map SimulationStep.outcome

end Playback

end TrainingLab
