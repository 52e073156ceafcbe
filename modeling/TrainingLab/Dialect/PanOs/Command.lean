import TrainingLab.Dialect.PanOs.Listing
import TrainingLab.Protocol

/-
  The commands of PAN-OS and their effects. Changes apply at once.
-/

namespace TrainingLab.PanOs

/-- A line or a value that is not valid. -/
def invalidSyntax : String := "Invalid syntax."

/-- A line that expects more. -/
def incompleteCommand : String := "Incomplete command."

/-! ## Security rules -/

/-- The protocol and port of a service or an application; `none` for an unknown name. -/
def selector? (name : String) : Option (Option Transport × Option UInt16) :=
  match Text.lower name with
  | "any" => some (none, none)
  | "application-default" => some (none, none)
  | "service-http" => some (some .tcp, some 80)
  | "web-browsing" => some (some .tcp, some 80)
  | "service-https" => some (some .tcp, some 443)
  | "ssl" => some (some .tcp, some 443)
  | other => (Protocol.ofName? other).map fun p => (some p.transport, p.port)

/-- The action of a name. -/
def action? (name : String) : Option PolicyAction :=
  match Text.lower name with
  | "allow" => some .allow
  | "deny" => some .deny
  | "drop" => some .deny
  | "reset-client" => some .deny
  | "reset-server" => some .deny
  | "reset-both" => some .deny
  | _ => none

/-- A value for one field of a security rule. -/
inductive RuleField
  | fromZone (zone : String)
  | toZone (zone : String)
  | source (address : String)
  | destination (address : String)
  | action (action : PolicyAction)
  | selector (protocol : Option Transport) (port : Option UInt16)
deriving DecidableEq, Repr

namespace RuleField

/-- The field of a name with a value, if there is such a field and the value is one of it. -/
def read? (field value : String) : Option RuleField :=
  match Text.lower field with
  | "from" => some (.fromZone value)
  | "to" => some (.toZone value)
  | "source" => some (.source value)
  | "destination" => some (.destination value)
  | "action" => (action? value).map .action
  | "service" => (selector? value).map fun (protocol, port) => .selector protocol port
  | "application" => (selector? value).map fun (protocol, port) => .selector protocol port
  | _ => none

/-- The rule with the field set. -/
def apply (f : RuleField) (p : Policy) : Policy :=
  match f with
  | fromZone zone => { p with fromZone := zone }
  | toZone zone => { p with toZone := zone }
  | source address => { p with source := address }
  | destination address => { p with destination := address }
  | action a => { p with action := a }
  | selector protocol port => { p with protocol, port }

end RuleField

/-- Changes the first rule of a name. -/
def editRule (name : String) (f : Policy → Policy) : List Policy → List Policy
  | [] => []
  | p :: rest => if p.name = name then f p :: rest else p :: editRule name f rest

/-- Sets a field of a rule, creating the rule if there is none of the name. Without a valid field
    and value nothing changes, and neither without an id for the new rule. -/
def setRule (name field value : String) (d : Device) : Device :=
  match RuleField.read? field value with
  | none => d.log invalidSyntax
  | some f =>
    if d.policies.any fun p => p.name == name then
      { d with policies := editRule name f.apply d.policies }
    else
      match Policy.nextId? d.policies with
      | none => d.log invalidSyntax
      | some id =>
        let rule : Policy :=
          { id, name, fromZone := "any", toZone := "any", action := .allow }
        { d with policies := d.policies ++ [f.apply rule] }

/-- Removes the rules of a name. -/
def deleteRule (name : String) (d : Device) : Device :=
  if d.policies.any fun p => p.name == name then
    { d with policies := d.policies.filter fun p => p.name != name }
  else d.log (name ++ " does not exist")

/-! ## Policy queries -/

/-- A question to the rulebase. What is missing restricts nothing. -/
structure Query where
  fromZone : Option String
  toZone : Option String
  protocol : Option Transport
  port : Option UInt16
deriving DecidableEq, Repr

/-- The word after the first occurrence of a key, in any case. -/
def valueOf? (key : String) : List String → Option String
  | [] => none
  | word :: rest => if Text.equalIgnoringCase word key then rest.head? else valueOf? key rest

/-- A transport protocol by its number or its name. -/
def transport? (s : String) : Option Transport :=
  match s with
  | "6" => some .tcp
  | "17" => some .udp
  | "1" => some .icmp
  | name => Transport.ofName? name

/-- Reads a question from its words. -/
def Query.ofWords (words : List String) : Query where
  fromZone := valueOf? "from" words
  toZone := valueOf? "to" words
  protocol := (valueOf? "protocol" words).bind transport?
  port := (valueOf? "destination-port" words).bind Text.readUInt16?

/-- A zone of a rule takes in the zone of a question. -/
def zoneCovers (zone : String) (asked : Option String) : Bool :=
  Text.equalIgnoringCase zone "any" || asked.all fun z => Text.equalIgnoringCase z zone

/-- The selectors of a rule take in those of a question. Without a protocol only the ports
    count. -/
def selectorCovers (p : Policy) (q : Query) : Bool :=
  match q.protocol with
  | some t => p.covers t q.port
  | none =>
    match q.port, p.port with
    | some a, some b => a == b
    | _, _ => true

/-- The rule answers the question. -/
def ruleCovers (q : Query) (p : Policy) : Bool :=
  zoneCovers p.fromZone q.fromZone && zoneCovers p.toZone q.toZone && selectorCovers p q

/-- The answer to a question: the first rule that takes it in decides. -/
def queryReply (d : Device) (q : Query) : String :=
  match d.policies.find? (ruleCovers q) with
  | some p =>
    "Access " ++
      (match p.action with
        | .allow => "allowed"
        | .deny => "denied") ++
      " by policy \"" ++ p.name ++ "\" from " ++ p.fromZone ++ " to " ++ p.toZone
  | none => "No matching security rule found (implicit deny)"

/-! ## Commands -/

/-- A command of the PAN-OS console. -/
inductive Command
  /-- Prints fixed lines. -/
  | print (lines : List String)
  /-- Accepted without an effect. -/
  | accept
  | configure
  | exit
  | testPolicy (words : List String)
  | ping (target : String)
  | showInterfaces
  | showLogicalInterfaces
  | showHardwareInterfaces
  | showRoutes
  | showSystemInfo
  | showArp
  | showSecurityPolicy
  | setAddress (interface cidr : String)
  | setZone (interface zone : String)
  | setHostname (name : String)
  | setRule (name field value : String)
  | deleteRule (name : String)
  | addRoute (destination nextHop : String)
  | loadConfig (file : String)
deriving DecidableEq, Repr

/-- The effect of a command. -/
def Command.run (devices : Inventory) (c : Command) (d : Device) : Device :=
  match c with
  | print lines => d.logAll lines
  | accept => d
  | configure => (d.log "Entering configuration mode").enter .config
  | exit => (d.log "Exiting configuration mode").enter .user
  | testPolicy words => d.log (queryReply d (Query.ofWords words))
  | ping target => d.logAll (pingReply target)
  | showInterfaces => d.logAll (interfaceSummary d)
  | showLogicalInterfaces => d.logAll (logicalInterfaces d)
  | showHardwareInterfaces => d.logAll (hardwareInterfaces d)
  | showRoutes => d.logAll (routingTable d)
  | showSystemInfo => d.logAll (systemInfo d)
  | showArp => d.logAll (arpTable d devices)
  | showSecurityPolicy => d.logAll (securityPolicy d)
  | setAddress interface cidr =>
    (d.editInterface interface fun i => i.setCidr cidr).log "[OK]"
  | setZone interface zone => d.editInterface interface fun i => i.setZone (some zone)
  | setHostname name => { d with name }
  | setRule name field value => PanOs.setRule name field value d
  | deleteRule name => PanOs.deleteRule name d
  | addRoute destination nextHop =>
    let route : Route := { destination := Network.canonicalPrefix destination, nextHop }
    { d with routes := Route.addTo d.routes route }
  | loadConfig file => d.log ("Config loaded from " ++ file)

end TrainingLab.PanOs
