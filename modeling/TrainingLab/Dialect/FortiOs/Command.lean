import TrainingLab.Dialect.FortiOs.Listing

/-
  The commands of FortiOS and their effects. There are no modes: `config` opens a section, `edit`
  an object in it, `next` leaves the object and `end` the section. Changes apply at once.
-/

namespace TrainingLab.FortiOs

/-- A line or a value that is not valid. -/
def parseError : String := "command parse error"

/-- An unknown `get`. -/
def getError : String := "Command fail. Return code -1"

/-- An unknown `diagnose`. -/
def diagnoseError : String := "Unknown diagnose command."

/-- An object or a service that does not exist. -/
def notFound : String := "entry not found in datasource"

/-- The sections with objects, and the one for OSPF. -/
def interfaces : String := "system interface"

@[inherit_doc interfaces] def policies : String := "firewall policy"

@[inherit_doc interfaces] def staticRoutes : String := "router static"

@[inherit_doc interfaces] def ospf : String := "router ospf"

/-! ## Objects -/

/-- Opens an interface, creating it if it does not exist. -/
def openInterface (name : String) (d : Device) : Device :=
  (d.editInterface name id).push .interface name

/-- Opens a policy, creating it if it does not exist. Id zero stands for the next free one. -/
def openPolicy (id : String) (d : Device) : Device :=
  match Text.readUInt32? id with
  | none => d.log parseError
  | some n =>
    match if n == 0 then Policy.nextId? d.policies else some n with
    | none => d.log parseError
    | some n =>
      let blank : Policy := { id := n, name := "", fromZone := "", toZone := "", action := .deny }
      let opened :=
        if d.policies.any fun p => p.id == n then d
        else { d with policies := d.policies ++ [blank] }
      opened.push .policyObject (toString n)

/-- Opens the route at a position, counted from one. Any other position makes a new default route
    without a gateway at the end. -/
def openRoute (position : String) (d : Device) : Device :=
  match Text.readPosition? position with
  | none => d.log parseError
  | some n =>
    if n = 0 ∨ d.routes.length < n then
      let blank : Route := { destination := "0.0.0.0/0", nextHop := "0.0.0.0" }
      let routes := d.routes ++ [blank]
      ({ d with routes }).push .staticRoute (toString routes.length)
    else d.push .staticRoute (toString n)

/-- Deletes an interface. -/
def deleteInterface (name : String) (d : Device) : Device :=
  if d.interfaces.contains name then { d with interfaces := d.interfaces.erase name }
  else d.log notFound

/-- Deletes the policies of an id. -/
def deletePolicy (id : String) (d : Device) : Device :=
  let kept := d.policies.filter fun p => some p.id != Text.readUInt32? id
  if kept.length = d.policies.length then d.log notFound else { d with policies := kept }

/-- Deletes the route at a position. -/
def deleteRoute (position : String) (d : Device) : Device :=
  match Text.readPosition? position with
  | some n =>
    if 1 ≤ n ∧ n ≤ d.routes.length then { d with routes := d.routes.eraseIdx (n - 1) }
    else d.log notFound
  | none => d.log notFound

/-! ## Settings -/

/-- Changes the open interface. -/
def editInterface (f : Interface → Interface) (d : Device) : Device :=
  match d.frameName? .interface with
  | some name => d.editInterface name f
  | none => d.log parseError

/-- Changes the first policy of an id. -/
def editFirst (id : UInt32) (f : Policy → Policy) : List Policy → List Policy
  | [] => []
  | p :: rest => if p.id = id then f p :: rest else p :: editFirst id f rest

/-- Changes the open policy. -/
def editPolicy (f : Policy → Policy) (d : Device) : Device :=
  match (d.frameName? .policyObject).bind Text.readUInt32? with
  | some id =>
    if d.policies.any fun p => p.id == id then
      { d with policies := editFirst id f d.policies }
    else d.log parseError
  | none => d.log parseError

/-- Changes the open route. -/
def editRoute (f : Route → Route) (d : Device) : Device :=
  match (d.frameName? .staticRoute).bind Text.readPosition? with
  | some n =>
    if 1 ≤ n ∧ n ≤ d.routes.length then { d with routes := d.routes.modify (n - 1) f }
    else d.log parseError
  | none => d.log parseError

/-- The state of a name. -/
def setStatus (status : String) (d : Device) : Device :=
  match status with
  | "up" => editInterface (fun i => i.setUp true) d
  | "down" => editInterface (fun i => i.setUp false) d
  | _ => d.log parseError

/-- The action of a name in any case. -/
def setAction (action : String) (d : Device) : Device :=
  match Text.lower action with
  | "accept" => editPolicy (fun p => { p with action := .allow }) d
  | "deny" => editPolicy (fun p => { p with action := .deny }) d
  | _ => d.log parseError

/-- The first of the services. -/
def setService (services : String) (d : Device) : Device :=
  let first := ((Text.words services).head?.map Text.unquote).getD ""
  match selector? first with
  | some (protocol, port) => editPolicy (fun p => { p with protocol, port }) d
  | none => d.log notFound

/-- An address selector; `all` stands for every address. -/
def readAddress (address : String) : String :=
  let address := Text.unquote address
  if address == "all" then "any" else address

/-- The destination of the open route. -/
def setDestination (destination : Option Network.Cidr) (d : Device) : Device :=
  match destination with
  | some net => editRoute (fun r => { r with destination := net.toText }) d
  | none => d.log parseError

/-- The open section, or its open object alone. -/
def showOpen (d : Device) : List String :=
  let object := (d.frame?.filter fun f => f.kind != .configSection).map Frame.name
  match (d.context.reverse.find? fun f => f.kind == .configSection).map Frame.name with
  | some "system interface" => interfaceSection d object
  | some "firewall policy" => policySection d object
  | some "router static" => routeSection d object
  | some "router ospf" => ospfSection
  | _ => [parseError]

/-! ## Commands -/

/-- A command of the FortiOS console. -/
inductive Command
  /-- Prints fixed lines. -/
  | print (lines : List String)
  /-- Accepted without an effect. -/
  | accept
  | openSection (name : String)
  | next
  | leave
  | openInterface (name : String)
  | openPolicy (id : String)
  | openRoute (position : String)
  | deleteInterface (name : String)
  | deletePolicy (id : String)
  | deleteRoute (position : String)
  | showOpen
  | setAddress (ip mask : String)
  | setCidr (cidr : String)
  | clearAddress
  | setStatus (status : String)
  | setAlias (text : Option String)
  | setZone (zone : Option String)
  | setName (name : String)
  | setFromZone (zone : String)
  | setToZone (zone : String)
  | setSource (address : String)
  | setDestinationAddress (address : String)
  | setAction (action : String)
  | setService (services : String)
  | setDestination (ip mask : String)
  | setDestinationPrefix (cidr : String)
  | setGateway (gateway : String)
  | setDevice (name : String)
  | ping (target : String)
  | getInterfaces
  | getArp
  | getRoutes
  | showInterfaces
  | showPolicies
  | showRoutes
deriving DecidableEq, Repr

/-- The effect of a command. -/
def Command.run (devices : Inventory) (c : Command) (d : Device) : Device :=
  match c with
  | print lines => d.logAll lines
  | accept => d
  | openSection name => d.within [⟨.configSection, name⟩]
  | next => if d.frame?.any fun f => f.kind != .configSection then d.pop else d
  | leave => d.within []
  | openInterface name => FortiOs.openInterface (Text.unquote name) d
  | openPolicy id => FortiOs.openPolicy id d
  | openRoute position => FortiOs.openRoute position d
  | deleteInterface name => FortiOs.deleteInterface (Text.unquote name) d
  | deletePolicy id => FortiOs.deletePolicy id d
  | deleteRoute position => FortiOs.deleteRoute position d
  | showOpen => d.logAll (FortiOs.showOpen d)
  | setAddress ip mask => editInterface (fun i => i.setAddress ip mask) d
  | setCidr cidr => editInterface (fun i => i.setCidr cidr) d
  | clearAddress => editInterface Interface.clearAddress d
  | setStatus status => FortiOs.setStatus status d
  | setAlias text => editInterface (fun i => i.setDescription (text.map Text.unquote)) d
  | setZone zone => editInterface (fun i => i.setZone (zone.map Text.unquote)) d
  | setName name => editPolicy (fun p => { p with name := Text.unquote name }) d
  | setFromZone zone => editPolicy (fun p => { p with fromZone := Text.unquote zone }) d
  | setToZone zone => editPolicy (fun p => { p with toZone := Text.unquote zone }) d
  | setSource address => editPolicy (fun p => { p with source := readAddress address }) d
  | setDestinationAddress address =>
    editPolicy (fun p => { p with destination := readAddress address }) d
  | setAction action => FortiOs.setAction action d
  | setService services => FortiOs.setService services d
  | setDestination ip mask => FortiOs.setDestination (Network.readNetwork? ip mask) d
  | setDestinationPrefix cidr => FortiOs.setDestination (Network.readPrefix? cidr) d
  | setGateway gateway => editRoute (fun r => { r with nextHop := gateway }) d
  | setDevice name => editRoute (fun r => { r with interface := some (Text.unquote name) }) d
  | ping target => d.logAll (pingReply target)
  | getInterfaces => d.logAll (interfaceTable d)
  | getArp => d.logAll (arpTable d devices)
  | getRoutes => d.logAll (routingTable d)
  | showInterfaces => d.logAll (interfaceSection d none)
  | showPolicies => d.logAll (policySection d none)
  | showRoutes => d.logAll (routeSection d none)

end TrainingLab.FortiOs
