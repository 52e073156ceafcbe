/-
  Static routes.
-/

namespace TrainingLab

/-- A static route: a destination prefix, the next hop, and sometimes the interface towards it. -/
structure Route where
  destination : String
  nextHop : String
  interface : Option String := none
deriving DecidableEq, Repr, Inhabited

namespace Route

/-- The route that matches every destination. -/
def isDefault (r : Route) : Bool := r.destination == "0.0.0.0/0"

/-- Puts a route at the end, unless it is there already. -/
def addTo (routes : List Route) (r : Route) : List Route :=
  if routes.contains r then routes else routes ++ [r]

end Route

end TrainingLab
