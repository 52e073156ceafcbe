import TrainingLab.Device.Policy

/-
  The order in which a network security group evaluates its rules.
-/

namespace TrainingLab.SecurityGroup

/-- One rule is evaluated before another: by ascending priority, and without one at the end. -/
def precedes (p q : Policy) : Bool :=
  match p.priority, q.priority with
  | some a, some b => decide (a ≤ b)
  | some _, none => true
  | none, some _ => false
  | none, none => true

/-- Puts a rule before the first one that it precedes. -/
def insertRule (p : Policy) : List Policy → List Policy
  | [] => [p]
  | q :: rest => if precedes p q then p :: q :: rest else q :: insertRule p rest

/-- The rules in the order of their evaluation; rules that neither precedes keep their order. -/
def order (policies : List Policy) : List Policy := policies.foldr insertRule []

end TrainingLab.SecurityGroup
