import TrainingLab.Device.Basic

/-
  Two-phase commits. Changes are staged into a candidate that lies over the live configuration;
  the staged view is what a commit would make of it. A record is copied from the view when it is
  first touched, so the candidate holds the touched interfaces and nothing else.
-/

namespace TrainingLab.Device

/-! ## The staged view -/

/-- An interface as a commit would leave it. -/
def stagedInterface? (d : Device) (name : String) : Option Interface :=
  match d.candidate with
  | none => d.interfaces.find? name
  | some c =>
    if c.removed.contains name then none
    else (c.interfaces.find? name).or (d.interfaces.find? name)

/-- The interfaces as a commit would leave them. -/
def stagedInterfaces (d : Device) : SortedMap String Interface :=
  match d.candidate with
  | none => d.interfaces
  | some c => (d.interfaces.eraseAll c.removed.keys).insertAll c.interfaces.entries

/-- The static routes as a commit would leave them. -/
def stagedRoutes (d : Device) : List Route := (d.candidate.bind Candidate.routes).getD d.routes

/-- The hostname as a commit would leave it. -/
def stagedHostname (d : Device) : String := (d.candidate.bind Candidate.hostname).getD d.name

/-! ## Staging -/

/-- The changes staged so far. -/
def staging (d : Device) : Candidate := d.candidate.getD {}

/-- Stages a change of an interface. The record starts from the candidate's copy, else from the
    staged view, else unconfigured; it is no longer removed. -/
def stageInterface (d : Device) (name : String) (f : Interface → Interface) : Device :=
  let c := d.staging
  let record := (c.interfaces.find? name).getD ((d.stagedInterface? name).getD {})
  { d with
    candidate := some
      { c with
        interfaces := c.interfaces.insert name (f record)
        removed := c.removed.erase name } }

/-- Stages the removal of an interface. -/
def stageRemoval (d : Device) (name : String) : Device :=
  let c := d.staging
  { d with
    candidate := some
      { c with
        interfaces := c.interfaces.erase name
        removed := c.removed.insert name () } }

/-- Stages a change of the static routes. -/
def stageRoutes (d : Device) (f : List Route → List Route) : Device :=
  let c := d.staging
  { d with candidate := some { c with routes := some (f (c.routes.getD d.routes)) } }

/-- Stages a hostname. -/
def stageHostname (d : Device) (name : String) : Device :=
  { d with candidate := some { d.staging with hostname := some name } }

/-! ## Committing -/

/-- A staged record differs from the live one, a live interface is to be removed, or the routes or
    the hostname differ. -/
def hasPendingChanges (d : Device) : Bool :=
  match d.candidate with
  | none => false
  | some c =>
    c.interfaces.entries.any (fun (name, i) => d.interfaces.find? name != some i) ||
      c.removed.keys.any d.interfaces.contains ||
      c.routes.any (· != d.routes) ||
      c.hostname.any (· != d.name)

/-- Drops what is staged. -/
def discard (d : Device) : Device := { d with candidate := none }

/-- Merges the candidate into the live configuration, removals first, leaves nothing staged, and
    reports whether there was anything to commit. -/
def commit (d : Device) : Device × Bool :=
  if d.hasPendingChanges then
    match d.candidate with
    | none => (d, false)
    | some c =>
      ({ d with
        interfaces := (d.interfaces.eraseAll c.removed.keys).insertAll c.interfaces.entries
        routes := c.routes.getD d.routes
        name := c.hostname.getD d.name
        candidate := none }, true)
  else (d.discard, false)

/-! ## Differences -/

/-- The lines for one staged interface next to the live one. -/
def interfaceDiff (live : Option Interface) (name : String) (staged : Interface) : List String :=
  if live = some staged then []
  else
    let before := (live.map Interface.cidr).getD ""
    let address :=
      if before == staged.cidr then []
      else
        (if before == "" then [] else ["-  address " ++ before ++ ";"]) ++
          (if staged.ip == "" then [] else ["+  address " ++ staged.cidr ++ ";"])
    let state :=
      if live.map Interface.up == some staged.up then []
      else [(if staged.up then "-" else "+") ++ "  disable;"]
    let description :=
      match staged.description with
      | some text =>
        if live.bind Interface.description == some text then []
        else ["+  description \"" ++ text ++ "\";"]
      | none => []
    let zone :=
      match staged.zone with
      | some z =>
        if live.bind Interface.zone == some z then [] else ["+  security-zone " ++ z ++ ";"]
      | none => []
    ["[edit interfaces " ++ name ++ "]"] ++ address ++ state ++ description ++ zone

/-- The lines for the routes of one list that another one lacks. -/
def routeDiff (mark : String) (routes others : List Route) : List String :=
  (routes.filter fun r => !others.contains r).flatMap fun r =>
    ["[edit routing-options static]",
      mark ++ "  route " ++ r.destination ++ " next-hop " ++ r.nextHop ++ ";"]

/-- The lines for a staged hostname. -/
def hostnameDiff (live staged : String) : List String :=
  ["[edit system]", "-  host-name " ++ live ++ ";", "+  host-name " ++ staged ++ ";"]

/-- What a commit would change, one line for every change, under the level it belongs to. -/
def pendingDiff (d : Device) : List String :=
  match d.candidate with
  | none => []
  | some c =>
    (match c.hostname with
      | none => []
      | some h => hostnameDiff d.name h) ++
    c.removed.keys.flatMap (fun name => ["[edit interfaces]", "-  " ++ name ++ " \x7b ... \x7d"]) ++
    c.interfaces.entries.flatMap
      (fun (name, i) => interfaceDiff (d.interfaces.find? name) name i) ++
    (match c.routes with
      | none => []
      | some routes => routeDiff "-" d.routes routes ++ routeDiff "+" routes d.routes)

end TrainingLab.Device
