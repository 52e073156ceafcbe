import TrainingLab.Lab.Basic
import TrainingLab.Protocol
import TrainingLab.SecurityGroup

/-
  The path of a packet. It starts at its source and visits the other devices of the topology in
  order, until one drops it or it has arrived. Firewalls and cloud resources with rules decide by
  their policies; all other devices forward.
-/

namespace TrainingLab

/-- What happens to the packet at a device. -/
inductive StepOutcome
  | success
  | drop
  /-- The packet has arrived and is processed. -/
  | process
deriving DecidableEq, Repr

namespace StepOutcome

/-- The name of the outcome. -/
def name : StepOutcome → String
  | success => "Success"
  | drop => "Drop"
  | process => "Process"

/-- The outcome in a column of seven characters. -/
def tag : StepOutcome → String
  | success => "  OK   "
  | drop => " DROP  "
  | process => "PROCESS"

end StepOutcome

/-- One step of the path. The detail names the source address or the policy that decided. -/
structure SimulationStep where
  deviceId : DeviceId
  outcome : StepOutcome
  description : String
  detail : Option String := none
deriving DecidableEq, Repr

namespace Device

/-- The detail of a drop that no policy decided. -/
def implicitDeny : String := "implicit-deny"

/-- A step at the device. -/
def step (d : Device) (outcome : StepOutcome) (description : String)
    (detail : Option String := none) : SimulationStep :=
  { deviceId := d.id, outcome, description := d.name ++ " " ++ description, detail }

/-- A firewall lets the packet pass if any of its policies allows anything. -/
def firewallStep (d : Device) : SimulationStep :=
  match d.policies.find? fun p => p.action == .allow with
  | some p =>
    d.step .success
      ("permits the flow by policy " ++ p.name ++ " (" ++ p.fromZone ++ " -> " ++ p.toZone ++ ")")
      (some p.name)
  | none =>
    d.step .drop "drops the flow: no policy allows it (implicit deny)" (some implicitDeny)

/-- The first rule with the action that covers the protocol. -/
def deciding? (rules : List Policy) (action : PolicyAction) (protocol : Protocol) :
    Option Policy :=
  rules.find? fun p => p.action == action && p.covers protocol.transport protocol.port

/-- A security group lets the packet pass if some rule allows it, in the order of evaluation. -/
def securityGroupStep (d : Device) (protocol : Protocol) : SimulationStep :=
  let rules := SecurityGroup.order d.policies
  match deciding? rules .allow protocol with
  | some p =>
    d.step .success
      ("allows " ++ protocol.selector ++ " by rule " ++ p.name ++ " (priority " ++
        (match p.priority with
          | some n => toString n
          | none => "-") ++ ")")
      (some p.name)
  | none =>
    match deciding? rules .deny protocol with
    | some p =>
      d.step .drop ("denies " ++ protocol.selector ++ " by rule " ++ p.name) (some p.name)
    | none =>
      d.step .drop ("denies " ++ protocol.selector ++ ": no rule matches (implicit deny)")
        (some implicitDeny)

/-- The packet is passed on, towards the next hop of the default route where there is one. -/
def forwardStep (d : Device) : SimulationStep :=
  let via :=
    match d.defaultRoute? with
    | some r => " via " ++ r.nextHop
    | none => ""
  d.step .success
    (match d.kind with
      | .router => "routes the packet (L3)" ++ via
      | .switch =>
        if via == "" then "switches the frame (L2)"
        else "switches the frame and routes it (L3)" ++ via
      | .accessPoint => "bridges the frame (L2)"
      | .firewall => "forwards the packet" ++ via
      | .cloud => "forwards the packet" ++ via)

/-- What the device does with the packet. -/
def hopStep (d : Device) (protocol : Protocol) : SimulationStep :=
  match d.kind with
  | .cloud => if d.policies.isEmpty then d.forwardStep else d.securityGroupStep protocol
  | .firewall => d.firewallStep
  | _ => d.forwardStep

/-- The device takes the packet that has arrived. -/
def arrivalStep (d : Device) (protocol : Protocol) (hop : SimulationStep) : SimulationStep :=
  { hop with
    outcome := .process
    description := d.name ++ " receives and processes the " ++ protocol.name ++ " request" }

/-- The device sends the packet, from the address of its first interface that is up. -/
def sourceStep (d : Device) (protocol : Protocol) : SimulationStep :=
  d.step .success
    ("generates " ++ protocol.name ++ " traffic (" ++ protocol.selector ++ ")")
    ((d.interfaces.values.find? fun i => i.up && i.isAddressed).map fun i => "src " ++ i.ip)

end Device

namespace Lab

/-- The steps over the devices of a path, up to a drop or the destination. -/
def walk (l : Lab) (destination : Option DeviceId) (protocol : Protocol) :
    List DeviceId → Except LabError (List SimulationStep)
  | [] => .ok []
  | id :: rest => do
    let d ← l.device? id
    let hop := d.hopStep protocol
    if hop.outcome = .drop then return [hop]
    else if destination = some id then return [d.arrivalStep protocol hop]
    else return hop :: (← walk l destination protocol rest)

/-- The path from a source over the whole topology, or up to a destination. -/
def pathFrom (l : Lab) (source : DeviceId) (destination : Option DeviceId) (protocol : Protocol) :
    Except LabError (List SimulationStep) := do
  let d ← l.device? source
  return d.sourceStep protocol ::
    (← l.walk destination protocol (l.path.filter fun id => id != source))

/-- The path of a packet over the whole topology. -/
def simulate (l : Lab) (source : DeviceId) (protocol : Protocol) :
    Except LabError (List SimulationStep) :=
  l.pathFrom source none protocol

/-- The path of a packet to another device of the topology. -/
def simulateTo (l : Lab) (source destination : DeviceId) (protocol : Protocol) :
    Except LabError (List SimulationStep) :=
  if destination == source || !l.path.contains destination then
    .error (.deviceNotFound destination)
  else l.pathFrom source (some destination) protocol

/-! ## Display -/

/-- A step in one line. -/
def stepLine (l : Lab) (s : SimulationStep) : String :=
  "[" ++ s.outcome.tag ++ "] " ++ l.hostname s.deviceId ++ ": " ++ s.description ++
    (match s.detail with
      | some detail => " (" ++ detail ++ ")"
      | none => "")

/-- The steps of a path, one line each. -/
def stepsText (l : Lab) (steps : List SimulationStep) : String :=
  Text.joinWith "\n" (steps.map l.stepLine)

end Lab

end TrainingLab
