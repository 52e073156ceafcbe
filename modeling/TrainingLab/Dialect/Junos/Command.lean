import TrainingLab.Dialect.Junos.Listing

/-
  The commands of Junos and their effects. Settings are staged; only a commit makes them live, and
  leaving the configuration mode drops what has not been committed.
-/

namespace TrainingLab.Junos

/-- A line that no rule takes. -/
def unknownCommand : String := "unknown command."

/-- A statement that is not valid where it stands. -/
def syntaxError : String := "syntax error."

/-- A line that expects more. -/
def incompleteCommand : String := "error: syntax error, expecting <data>"

/-- A statement to be deleted that is not there. -/
def notFound : String := "warning: statement not found"

/-- The interface that a statement is about: a named one, or the one being edited. -/
inductive Target
  | named (interface : String)
  | edited
deriving DecidableEq, Repr

/-- A command of the Junos console. -/
inductive Command
  /-- Prints fixed lines. -/
  | print (lines : List String)
  /-- Accepted without an effect. -/
  | accept
  | configure
  | showConfiguration (statement : Option String)
  | showVersion
  | showTerse
  | showInterfaces (name : Option String)
  | showRoutes
  | showArp
  | showLldp
  | showPolicies
  | showZones
  | showHistory
  | ping (target : Option String)
  | traceroute (target : Option String)
  | exit
  | leave
  | ascend
  | top
  | commit
  | commitAndQuit
  | rollback
  | compare
  | showCandidate (statement : Option String)
  | editInterface (name : String)
  | editObject (kind : FrameKind) (name : String)
  | setAddress (target : Target) (unit : Option String) (cidr : String)
  | clearAddress (target : Target) (unit : Option String)
  | describe (target : Target) (text : Option String)
  | setUp (target : Target) (up : Bool)
  | deleteInterface (name : String)
  | setZone (interface zone : String)
  | clearZone (interface : String)
  | setEditedZone (interface : String)
  | clearEditedZone (interface : String)
  | addRoute (destination nextHop : String)
  | addEditedRoute (nextHop : String)
  | deleteRoute (destination : String)
  | setHostname (name : String)
deriving DecidableEq, Repr

/-! ## Interfaces -/

/-- The staged interface that a name and a unit stand for: the logical interface of that full
    name, else the interface of the name, else the one before its point. -/
def resolve (d : Device) (name : String) (unit : Option String) : String :=
  let staged (name : String) := (d.stagedInterface? name).isSome
  match (unit.map fun u => name ++ "." ++ u).filter staged with
  | some logical => logical
  | none =>
    if staged name then name
    else
      match ((Text.splitFirst? (· == '.') name).map Prod.fst).filter staged with
      | some base => base
      | none => name

/-- Stages a change of the interface that a name and a unit stand for. -/
def stageNamed (name : String) (unit : Option String) (f : Interface → Interface) (d : Device) :
    Device :=
  d.stageInterface (resolve d name unit) f

/-- Stages a change of a target. -/
def stage (target : Target) (unit : Option String) (f : Interface → Interface) (d : Device) :
    Device :=
  match target with
  | .named name => stageNamed name unit f d
  | .edited =>
    match d.frameName? .interface with
    | some name => stageNamed name unit f d
    | none => d.log syntaxError

/-- Stages the removal of an interface. -/
def deleteInterface (name : String) (d : Device) : Device :=
  let name := resolve d name none
  if (d.stagedInterface? name).isSome then d.stageRemoval name else d.log notFound

/-- Stages a zone for an interface. -/
def assignZone (name zone : String) (d : Device) : Device :=
  stageNamed name none (fun i => i.setZone (some zone)) d

/-- Stages the removal of an interface from its zone. -/
def releaseZone (name : String) (d : Device) : Device :=
  if (d.stagedInterface? (resolve d name none)).isSome then
    stageNamed name none (fun i => i.setZone none) d
  else d.log notFound

/-- Uses the zone being edited. -/
def withEditedZone (d : Device) (f : String → Device) : Device :=
  match d.frameName? .zone with
  | some zone => f zone
  | none => d.log syntaxError

/-! ## Routes -/

/-- Stages a route, unless it is staged already. -/
def addRoute (destination nextHop : String) (d : Device) : Device :=
  let route : Route := { destination := Network.canonicalPrefix destination, nextHop }
  d.stageRoutes fun routes => Route.addTo routes route

/-- Stages the removal of all routes to a destination. -/
def deleteRoute (destination : String) (d : Device) : Device :=
  let destination := Network.canonicalPrefix destination
  if d.stagedRoutes.any fun r => r.destination == destination then
    d.stageRoutes fun routes => routes.filter fun r => r.destination != destination
  else d.log notFound

/-! ## Leaving -/

/-- Leaves the configuration mode and drops what has not been committed, with a warning if that
    changes anything. -/
def leave (d : Device) : Device :=
  let d :=
    if d.hasPendingChanges then
      (d.log "The configuration has been changed but not committed").discard
    else d
  ((d.within []).log "Exiting configuration mode").enter .user

/-- Makes the staged changes live. -/
def commit (d : Device) : Device := d.commit.1.log "commit complete"

/-! ## Commands -/

/-- The address of replies to `ping` and `traceroute` without a target. -/
def defaultTarget : String := "8.8.8.8"

/-- The effect of a command. -/
def Command.run (devices : Inventory) (c : Command) (d : Device) : Device :=
  match c with
  | print lines => d.logAll lines
  | accept => d
  | configure => (d.log "Entering configuration mode").enter .edit
  | showConfiguration statement => d.logAll (liveConfiguration d statement)
  | showVersion => d.logAll (version d)
  | showTerse => d.logAll (terseTable d)
  | showInterfaces name => d.logAll (physicalInterfaces d name)
  | showRoutes => d.logAll (routingTable d)
  | showArp => d.logAll (arpTable d devices)
  | showLldp => d.logAll (lldpTable d devices)
  | showPolicies => d.logAll (policyTable d)
  | showZones => d.logAll (zoneTable d)
  | showHistory => d.logAll d.enteredCommands
  | ping target => d.logAll (pingReply (target.getD defaultTarget))
  | traceroute target => d.logAll (tracerouteReply d (target.getD defaultTarget))
  | exit => if d.context.isEmpty then Junos.leave d else d.pop
  | leave => Junos.leave d
  | ascend => d.pop
  | top => d.within []
  | commit => Junos.commit d
  | commitAndQuit => Junos.leave (Junos.commit d)
  | rollback => d.discard.log "load complete"
  | compare => d.logAll d.pendingDiff
  | showCandidate statement => d.logAll (stagedConfiguration d statement)
  | editInterface name =>
    let name := resolve d name none
    (d.stageInterface name id).push .interface name
  | editObject kind name => d.push kind name
  | setAddress target unit cidr => stage target unit (fun i => i.setCidr cidr) d
  | clearAddress target unit => stage target unit (fun i => i.clearAddress) d
  | describe target text => stage target none (fun i => i.setDescription text) d
  | setUp target up => stage target none (fun i => i.setUp up) d
  | deleteInterface name => Junos.deleteInterface name d
  | setZone interface zone => assignZone interface zone d
  | clearZone interface => releaseZone interface d
  | setEditedZone interface => withEditedZone d fun zone => assignZone interface zone d
  | clearEditedZone interface => withEditedZone d fun _ => releaseZone interface d
  | addRoute destination nextHop => Junos.addRoute destination nextHop d
  | addEditedRoute nextHop =>
    match d.frameName? .staticRoute with
    | some destination => Junos.addRoute destination nextHop d
    | none => d.log syntaxError
  | deleteRoute destination => Junos.deleteRoute destination d
  | setHostname name => d.stageHostname name

end TrainingLab.Junos
