import TrainingLab.Device.Connected
import TrainingLab.Device.Neighbor
import TrainingLab.Dialect.Basic
import TrainingLab.SecurityGroup

/-
  The console of cloud resources: network security groups, virtual machines and uplinks. It only
  inspects.
-/

namespace TrainingLab.Cloud

open Grammar

/-- A command of the cloud console. -/
inductive Command
  | showRules
  | showRoutes
  | showInterfaces
  | showArp
  | exit
deriving DecidableEq, Repr

/-- The answer to every other line. -/
def unsupported : String := "% Error: command not supported on this cloud resource."

/-- The columns of the rules. -/
def ruleColumns (priority name direction access protocol port source destination : String) :
    String :=
  Text.columns
    [(9, priority), (20, name), (10, direction), (7, access), (9, protocol), (6, port),
      (10, source)]
    destination

/-- The row of a rule. -/
def ruleRow (p : Policy) : String :=
  ruleColumns
    (match p.priority with
      | some n => toString n
      | none => "-")
    p.name "Inbound"
    (match p.action with
      | .allow => "Allow"
      | .deny => "Deny")
    (match p.protocol with
      | some t => Text.upper t.name
      | none => "*")
    (match p.port with
      | some n => toString n
      | none => "*")
    p.source p.destination

/-- `show nsg rules`, in the order of evaluation. -/
def ruleTable (d : Device) : List String :=
  if d.policies.isEmpty then ["No security rules are associated with this resource."]
  else
    ruleColumns "Priority" "Name" "Direction" "Access" "Protocol" "Port" "Source" "Destination" ::
      (SecurityGroup.order d.policies).map ruleRow

/-- The columns of the routes. -/
def routeColumns (source state destination kind nextHop : String) : String :=
  Text.columns [(9, source), (7, state), (19, destination), (19, kind)] nextHop

/-- `show effective-routes`. -/
def effectiveRoutes (d : Device) : List String :=
  [routeColumns "Source" "State" "Address Prefix" "Next Hop Type" "Next Hop IP"] ++
  d.connectedNetworks.map (fun c =>
    routeColumns "Default" "Active" c.network.toText "VnetLocal" "-") ++
  d.routes.map fun r => routeColumns "User" "Active" r.destination "VirtualAppliance" r.nextHop

/-- The columns of the interfaces. -/
def interfaceColumns (name ip subnet state zone : String) : String :=
  Text.columns [(6, name), (15, ip), (19, subnet), (6, state)] zone

/-- The row of an interface. -/
def interfaceRow (name : String) (i : Interface) : String :=
  interfaceColumns name i.ip
    (match i.net? with
      | some net => net.network.toText
      | none => "")
    i.state (i.zone.getD "-")

/-- `show interfaces`. -/
def interfaceTable (d : Device) : List String :=
  interfaceColumns "Name" "Private IP" "Subnet" "State" "Zone" ::
    d.interfaces.entries.map fun (name, i) => interfaceRow name i

/-- `show arp`. -/
def arpTable (d : Device) (devices : Inventory) : List String :=
  "Address          Age (min)  Hardware Addr    Type   Interface" ::
    (d.neighbors devices).map Neighbor.arpRow

/-- The effect of a command: it prints, or does nothing. -/
def Command.run (devices : Inventory) (c : Command) (d : Device) : Device :=
  match c with
  | showRules => d.logAll (ruleTable d)
  | showRoutes => d.logAll (effectiveRoutes d)
  | showInterfaces => d.logAll (interfaceTable d)
  | showArp => d.logAll (arpTable d devices)
  | exit => d

/-- The rules in order. -/
def table : List (Rule (Request Command)) := [
  Rule.on [] "show nsg rules" fun _ => .command .showRules,
  Rule.on [] "show effective-routes" fun _ => .command .showRoutes,
  Rule.on [] "show interfaces" fun _ => .command .showInterfaces,
  Rule.on [] "show arp" fun _ => .command .showArp,
  Rule.on [] "exit" fun _ => .command .exit]

/-- The dialect of cloud resources. -/
def dialect : Dialect Command where
  modes := [.user]
  table := table
  run := Command.run
  unknown _ := unsupported
  incomplete := unsupported

end TrainingLab.Cloud
