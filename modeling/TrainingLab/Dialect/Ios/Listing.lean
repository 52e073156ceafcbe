import TrainingLab.Device.Connected
import TrainingLab.Device.Neighbor

/-
  What the inspection commands of IOS print: each listing is a list of lines made from a device.
-/

namespace TrainingLab.Ios

/-- The columns of the brief overview. -/
def briefColumns (name ip ok method status protocol : String) : String :=
  Text.columns [(22, name), (15, ip), (3, ok), (6, method), (21, status)] protocol

/-- The row of an interface in the brief overview. -/
def briefRow (name : String) (i : Interface) : String :=
  let (ip, method) := if i.ip == "" then ("unassigned", "unset") else (i.ip, "manual")
  briefColumns name ip "YES" method (if i.up then "up" else "administratively down") i.state

/-- `show ip interface brief`. -/
def interfaceBrief (d : Device) : List String :=
  briefColumns "Interface" "IP-Address" "OK?" "Method" "Status" "Protocol" ::
    d.interfaces.entries.map fun (name, i) => briefRow name i

/-- The block of a VLAN in the running configuration. -/
def vlanBlock (id : UInt16) (name : String) : List String :=
  ["vlan " ++ toString id, " name " ++ name, "!"]

/-- The block of an interface in the running configuration. -/
def interfaceBlock (name : String) (i : Interface) : List String :=
  ["interface " ++ name] ++
  (match i.description with
    | some text => [" description " ++ text]
    | none => []) ++
  (match i.vlan with
    | some vlan => [" switchport access vlan " ++ toString vlan]
    | none => []) ++
  (match i.zone with
    | some zone => [" zone-member security " ++ zone]
    | none => []) ++
  [if i.ip == "" then " no ip address" else " ip address " ++ i.ip ++ " " ++ i.dottedMask] ++
  (if i.up then [] else [" shutdown"]) ++
  ["!"]

/-- The line of a static route in the running configuration. -/
def routeLine (r : Route) : String :=
  let (network, mask) := Network.networkAndMask r.destination
  "ip route " ++ network ++ " " ++ mask ++ " " ++ r.nextHop

/-- `show running-config`. -/
def runningConfig (d : Device) : List String :=
  ["Building configuration...", "", "Current configuration:", "!", "hostname " ++ d.name, "!"] ++
  d.vlans.entries.flatMap (fun (id, name) => vlanBlock id name) ++
  d.interfaces.entries.flatMap (fun (name, i) => interfaceBlock name i) ++
  d.routes.map routeLine ++
  ["!", "end"]

/-- `show startup-config`. -/
def startupConfig (d : Device) : List String :=
  ["Using 1024 out of 262144 bytes", "hostname " ++ d.name, "! Startup Config", "end"]

/-- The state of one interface. -/
def interfaceState (name : String) (i : Interface) : List String :=
  [name ++ " is " ++ (if i.up then "up" else "administratively down") ++ ", line protocol is " ++
    i.state] ++
  (match i.description with
    | some text => ["  Description: " ++ text]
    | none => []) ++
  (if i.isAddressed then ["  Internet address is " ++ i.cidr] else []) ++
  ["  MTU 1500 bytes, BW 1000000 Kbit/sec, DLY 10 usec,",
    "  Encapsulation ARPA, loopback not set"]

/-- `show interfaces`, of one interface or of all. -/
def interfaceStates (d : Device) : Option String → List String
  | some name =>
    match d.interfaces.find? name with
    | some i => interfaceState name i
    | none => ["% Interface " ++ name ++ " not found"]
  | none => d.interfaces.entries.flatMap fun (name, i) => interfaceState name i

/-- `show ip route`. -/
def routingTable (d : Device) : List String :=
  ["Codes: L - local, C - connected, S - static, * - candidate default", "",
    match d.defaultRoute? with
    | some r => "Gateway of last resort is " ++ r.nextHop ++ " to network 0.0.0.0"
    | none => "Gateway of last resort is not set",
    ""] ++
  d.routes.map (fun r =>
    (if r.isDefault then "S*" else "S ") ++ "   " ++ r.destination ++ " [1/0] via " ++ r.nextHop) ++
  d.connectedNetworks.flatMap fun c =>
    ["C     " ++ c.network.toText ++ " is directly connected, " ++ c.interface,
      "L     " ++ c.host.toText ++ " is directly connected, " ++ c.interface]

/-- `show arp`. -/
def arpTable (d : Device) (devices : Inventory) : List String :=
  "Protocol  Address          Age (min)  Hardware Addr   Type   Interface" ::
    (d.neighbors devices).map fun n => "Internet  " ++ n.arpRow

/-- `show cdp neighbors` and `show lldp neighbors`. -/
def neighborTable (d : Device) (devices : Inventory) : List String :=
  "Device ID        Local Intrfce     Holdtme    Capability  Platform  Port ID" ::
    (d.neighbors devices).map Neighbor.cdpRow

/-- The block of a neighbor in the detailed overview. -/
def neighborBlock (n : Neighbor) : List String :=
  ["-------------------------",
    "Device ID: " ++ n.hostname,
    "Entry address(es):",
    "  IP address: " ++ n.ip.toText,
    "Platform: " ++ n.kind.name ++ ",  Capabilities: Router Switch IGMP",
    "Interface: " ++ n.localInterface ++ ",  Port ID (outgoing port): " ++ n.remoteInterface,
    "Holdtime : 150 sec"]

/-- The detailed overview of the neighbors. -/
def neighborDetails (d : Device) (devices : Inventory) : List String :=
  (d.neighbors devices).flatMap neighborBlock

/-- The interface is a port, not the virtual interface of a VLAN. -/
def isPort (name : String) : Bool := !Text.begins "vlan" (Text.lower name)

/-- The ports in an access VLAN. -/
def accessPorts (d : Device) (vlan : UInt16) : List String :=
  (d.interfaces.entries.filter fun (name, i) => i.vlan == some vlan && isPort name).map Prod.fst

/-- The ports without an access VLAN and without an address. -/
def defaultPorts (d : Device) : List String :=
  (d.interfaces.entries.filter fun (name, i) =>
    i.vlan == none && isPort name && i.ip == "").map Prod.fst

/-- The row of a VLAN. -/
def vlanRow (id : UInt16) (name : String) (ports : List String) : String :=
  Text.columns [(4, toString id), (32, name), (9, "active")] (Text.joinWith ", " ports)

/-- `show vlan`. VLAN 1 has the default ports, also where the database does not hold it. -/
def vlanTable (d : Device) : List String :=
  ["VLAN Name                             Status    Ports",
    "---- -------------------------------- --------- -------------------------------"] ++
  (if d.vlans.contains 1 then [] else [vlanRow 1 "default" (defaultPorts d)]) ++
  d.vlans.entries.map fun (id, name) =>
    vlanRow id name (if id == 1 then defaultPorts d else accessPorts d id)

/-- The answer to a ping. -/
def pingReply (target : String) : List String :=
  ["Type escape sequence to abort.",
    "Sending 5, 100-byte ICMP Echos to " ++ target ++ ", timeout is 2 seconds:",
    "!!!!!",
    "Success rate is 100 percent (5/5), round-trip min/avg/max = 1/1/2 ms"]

/-- The hop at a distance from the first one. -/
def hopLine (distance : Nat) (hop : String) : String :=
  "  " ++ toString (distance + 1) ++ " " ++ hop ++ " " ++ toString (2 * distance + 1) ++ " msec " ++
    toString (2 * distance + 1) ++ " msec " ++ toString (2 * distance + 2) ++ " msec"

/-- The hops to a target: the gateway of last resort, if there is one, and the target. -/
def traceReply (d : Device) (target : String) : List String :=
  ("Tracing the route to " ++ target) ::
    match d.defaultRoute? with
    | some r => [hopLine 0 r.nextHop, hopLine 1 target]
    | none => [hopLine 0 target]

end TrainingLab.Ios
