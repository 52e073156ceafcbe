import TrainingLab.Device.Connected
import TrainingLab.Device.Neighbor
import TrainingLab.Device.Staging

/-
  What the inspection commands of Junos print.
-/

namespace TrainingLab.Junos

/-- The name of an interface with its logical unit, which is 0 unless the name has one. -/
def unitName (name : String) : String := if Text.hasChar '.' name then name else name ++ ".0"

/-! ## Zones -/

/-- The interfaces of every zone, in order of the zones' names. -/
def zoneMembers (interfaces : SortedMap String Interface) : SortedMap String (List String) :=
  interfaces.entries.foldl
    (fun zones (name, i) =>
      match i.zone with
      | some zone => zones.insert zone ((zones.find? zone).getD [] ++ [unitName name])
      | none => zones)
    SortedMap.empty

/-- The block of a zone. -/
def zoneBlock (zone : String) (members : List String) : List String :=
  ["Security zone: " ++ zone,
    "  Send reset for non-SYN session TCP packets: Off",
    "  Policy configurable: Yes",
    "  Interfaces bound: " ++ toString members.length,
    "  Interfaces:"] ++
  members.map fun m => "    " ++ m

/-- `show security zones`. -/
def zoneTable (d : Device) : List String :=
  let zones := zoneMembers d.interfaces
  if zones.isEmpty then ["No security zones configured."]
  else zones.entries.flatMap fun (zone, members) => zoneBlock zone members

/-! ## Hierarchy -/

/-- The statements of an interface. -/
def interfaceStatements (name : String) (i : Interface) : List String :=
  let (base, unit) := (Text.splitFirst? (· == '.') name).getD (name, "0")
  ["    " ++ base ++ " \x7b"] ++
  (match i.description with
    | some text => ["        description \"" ++ text ++ "\";"]
    | none => []) ++
  (if i.up then [] else ["        disable;"]) ++
  ["        unit " ++ unit ++ " \x7b",
    "            family inet \x7b"] ++
  (if i.isAddressed then ["                address " ++ i.cidr ++ ";"] else []) ++
  ["            \x7d",
    "        \x7d",
    "    \x7d"]

/-- The statements of the static routes. -/
def routeStatements (routes : List Route) : List String :=
  ["    static \x7b"] ++
  routes.map (fun r => "        route " ++ r.destination ++ " next-hop " ++ r.nextHop ++ ";") ++
  ["    \x7d"]

/-- The statements of a zone. -/
def zoneStatements (zone : String) (members : List String) : List String :=
  ["        security-zone " ++ zone ++ " \x7b",
    "            interfaces \x7b"] ++
  members.map (fun m => "                " ++ m ++ ";") ++
  ["            \x7d",
    "        \x7d"]

/-- The top-level statements of a configuration with their bodies. Routes and zones are left out
    where there are none. -/
def hierarchy (hostname : String) (interfaces : SortedMap String Interface) (routes : List Route) :
    List (String × List String) :=
  let zones := zoneMembers interfaces
  [("system", ["    host-name " ++ hostname ++ ";"]),
    ("interfaces", interfaces.entries.flatMap fun (name, i) => interfaceStatements name i)] ++
  (if routes.isEmpty then [] else [("routing-options", routeStatements routes)]) ++
  (if zones.isEmpty then []
    else
      [("security",
        ["    zones \x7b"] ++
          zones.entries.flatMap (fun (zone, members) => zoneStatements zone members) ++
          ["    \x7d"])])

/-- A whole configuration below its header, or one top-level statement of it. -/
def configuration (statement : Option String) (blocks : List (String × List String)) :
    List String :=
  (if statement.isNone then
    ["## Last changed: 2024-05-01 12:00:00 UTC", "version 21.4R1;"] else []) ++
  (blocks.filter fun (name, _) => statement.all (· == name)).flatMap fun (name, body) =>
    [name ++ " \x7b"] ++ body ++ ["\x7d"]

/-- `show configuration`: what is live. -/
def liveConfiguration (d : Device) (statement : Option String) : List String :=
  configuration statement (hierarchy d.name d.interfaces d.routes)

/-- `show` while editing: what a commit would make live. -/
def stagedConfiguration (d : Device) (statement : Option String) : List String :=
  configuration statement (hierarchy d.stagedHostname d.stagedInterfaces d.stagedRoutes)

/-! ## Tables -/

/-- `show version`. -/
def version (d : Device) : List String :=
  ["Hostname: " ++ d.name,
    "Model: vmx",
    "Junos: 21.4R1.12",
    "JUNOS OS Kernel 64-bit  [20211111.2c1a3a0_builder_stable_11]"]

/-- `show interfaces terse`. -/
def terseTable (d : Device) : List String :=
  "Interface               Admin Link Proto    Local                 Remote" ::
    d.interfaces.entries.map fun (name, i) =>
      Text.columns [(23, unitName name), (5, i.state), (4, i.state), (8, "inet")] i.cidr

/-- The line of one interface. -/
def physicalInterface (name : String) (i : Interface) : String :=
  "Physical interface: " ++ name ++ ", " ++
    (if i.up then "Enabled" else "Administratively down") ++ ", Physical link is " ++
    (if i.up then "Up" else "Down")

/-- `show interfaces`, of one or of all. -/
def physicalInterfaces (d : Device) (only : Option String) : List String :=
  match only with
  | some name =>
    match d.interfaces.find? name with
    | some i => [physicalInterface name i]
    | none => ["error: device " ++ name ++ " not found"]
  | none => d.interfaces.entries.map fun (name, i) => physicalInterface name i

/-- The first line of a route. -/
def routeLine (destination source : String) : String :=
  Text.padRight 19 destination ++ "*[" ++ source ++ "] 4w2d 03:00:00"

/-- The lines of a static route. -/
def staticRouteLines (d : Device) (r : Route) : List String :=
  [routeLine r.destination "Static/5",
    "                    >  to " ++ r.nextHop ++
      (match d.egress? r with
        | some name => " via " ++ unitName name
        | none => "")]

/-- The lines of an attached network: the network, and the interface's own address. -/
def attachedLines (c : ConnectedNetwork) : List String :=
  [routeLine c.network.toText "Direct/0",
    "                    >  via " ++ unitName c.interface,
    routeLine c.host.toText "Local/0",
    "                       Local via " ++ unitName c.interface]

/-- `show route`. -/
def routingTable (d : Device) : List String :=
  let count := toString (d.routes.length + 2 * d.connectedNetworks.length)
  ["inet.0: " ++ count ++ " destinations, " ++ count ++ " routes (" ++ count ++
      " active, 0 holddown, 0 hidden)",
    "+ = Active Route, - = Last Active, * = Both",
    ""] ++
  d.routes.flatMap (staticRouteLines d) ++ d.connectedNetworks.flatMap attachedLines

/-- `show arp`. -/
def arpTable (d : Device) (devices : Inventory) : List String :=
  "MAC Address       Address         Name                      Interface           Flags" ::
    (d.neighbors devices).map fun n =>
      Text.columns
        [(17, n.mac), (15, n.ip.toText), (25, n.hostname), (19, unitName n.localInterface)] "none"

/-- `show lldp neighbors`. -/
def lldpTable (d : Device) (devices : Inventory) : List String :=
  "Local Interface    Parent Interface    Chassis Id          Port info          System Name" ::
    (d.neighbors devices).map fun n =>
      Text.columns [(18, n.localInterface), (19, "-"), (19, n.mac), (18, n.remoteInterface)]
        n.hostname

/-- The block of the policy at a position. -/
def policyBlock (position : Nat) (p : Policy) : List String :=
  ["From zone: " ++ p.fromZone ++ ", To zone: " ++ p.toZone,
    "  Policy: " ++ p.name ++ ", State: enabled, Index: " ++ toString p.id ++
      ", Sequence number: " ++ toString (position + 1),
    "    Source addresses: " ++ p.source,
    "    Destination addresses: " ++ p.destination,
    "    Applications: " ++ p.service,
    "    Action: " ++
      (match p.action with
        | .allow => "permit"
        | .deny => "deny")]

/-- `show security policies`. -/
def policyTable (d : Device) : List String :=
  "Default policy: deny-all" :: (d.policies.mapIdx policyBlock).flatten

/-- The answer to a ping. -/
def pingReply (target : String) : List String :=
  ["PING " ++ target ++ " (" ++ target ++ "): 56 data bytes",
    "64 bytes from " ++ target ++ ": icmp_seq=0 ttl=118 time=12.345 ms"]

/-- The answer to a traceroute: one hop, to the next hop of the default route if there is one. -/
def tracerouteReply (d : Device) (target : String) : List String :=
  ["traceroute to " ++ target ++ " (" ++ target ++ "), 30 hops max, 40 byte packets",
    " 1  " ++ ((d.defaultRoute?.map Route.nextHop).getD target) ++ "  2.123 ms"]

end TrainingLab.Junos
