import TrainingLab.Device.Connected
import TrainingLab.Device.Neighbor
import TrainingLab.Protocol

/-
  What the inspection commands of FortiOS print. The listings of a section have the form in which
  the section is entered.
-/

namespace TrainingLab.FortiOs

/-! ## Services -/

/-- The protocol and port of a predefined service; `none` for an unknown name. -/
def selector? (name : String) : Option (Option Transport × Option UInt16) :=
  match Text.upper name with
  | "ALL" => some (none, none)
  | "ALL_TCP" => some (some .tcp, none)
  | "ALL_UDP" => some (some .udp, none)
  | "ALL_ICMP" => some (some .icmp, none)
  | other => (Protocol.ofName? other).map fun p => (some p.transport, p.port)

/-- The name of a policy's service: a group, the protocol with these selectors, or the selectors
    themselves. -/
def serviceName (p : Policy) : String :=
  match p.protocol with
  | none => if p.port.isNone then "ALL" else p.service
  | some .icmp => "ALL_ICMP"
  | some t =>
    match Protocol.all.find? fun q => q.transport == t && q.port == p.port with
    | some q => Text.upper q.name
    | none => p.service

/-! ## Sections -/

/-- The lines between the opening of a section and its end. -/
def sectionBlock (name : String) (objects : List (List String)) : List String :=
  ["config " ++ name] ++ objects.flatten ++ ["end"]

/-- The block of an interface. -/
def interfaceBlock (name : String) (i : Interface) : List String :=
  ["    edit \"" ++ name ++ "\""] ++
  (if i.isAddressed then ["        set ip " ++ i.ip ++ " " ++ i.dottedMask] else []) ++
  (match i.description with
    | some text => ["        set alias \"" ++ text ++ "\""]
    | none => []) ++
  (match i.zone with
    | some zone => ["        set zone \"" ++ zone ++ "\""]
    | none => []) ++
  (if i.up then [] else ["        set status down"]) ++
  ["    next"]

/-- The interfaces, or the one of a name. -/
def interfaceSection (d : Device) (only : Option String) : List String :=
  sectionBlock "system interface"
    ((d.interfaces.entries.filter fun (name, _) => only.all (· == name)).map
      fun (name, i) => interfaceBlock name i)

/-- The word for an address selector. -/
def addressName (address : String) : String := if address == "any" then "all" else address

/-- The block of a policy. -/
def policyBlock (p : Policy) : List String :=
  ["    edit " ++ toString p.id,
    "        set name \"" ++ p.name ++ "\"",
    "        set srcintf \"" ++ p.fromZone ++ "\"",
    "        set dstintf \"" ++ p.toZone ++ "\"",
    "        set srcaddr \"" ++ addressName p.source ++ "\"",
    "        set dstaddr \"" ++ addressName p.destination ++ "\"",
    "        set action " ++
      (match p.action with
        | .allow => "accept"
        | .deny => "deny"),
    "        set service \"" ++ serviceName p ++ "\"",
    "    next"]

/-- The policies, or those of an id. -/
def policySection (d : Device) (only : Option String) : List String :=
  sectionBlock "firewall policy"
    ((d.policies.filter fun p => only.all (· == toString p.id)).map policyBlock)

/-- The block of the route at a position. -/
def routeBlock (position : String) (r : Route) : List String :=
  let (network, mask) := Network.networkAndMask r.destination
  ["    edit " ++ position,
    "        set dst " ++ network ++ " " ++ mask,
    "        set gateway " ++ r.nextHop] ++
  (match r.interface with
    | some name => ["        set device \"" ++ name ++ "\""]
    | none => []) ++
  ["    next"]

/-- The static routes, or the one at a position. -/
def routeSection (d : Device) (only : Option String) : List String :=
  sectionBlock "router static"
    (((d.routes.mapIdx fun n r => (toString (n + 1), r)).filter fun (position, _) =>
      only.all (· == position)).map fun (position, r) => routeBlock position r)

/-- The OSPF section. -/
def ospfSection : List String := ["config router ospf", "    set router-id 0.0.0.0", "end"]

/-! ## Tables -/

/-- `get system interface`. -/
def interfaceTable (d : Device) : List String :=
  "Name    Mode        IP/Mask             Status" ::
    d.interfaces.entries.map fun (name, i) =>
      Text.columns
        [(7, name), (11, "static"),
          (19, if i.isAddressed then i.ip ++ " " ++ i.dottedMask else "0.0.0.0 0.0.0.0")]
        i.state

/-- `get system arp`. -/
def arpTable (d : Device) (devices : Inventory) : List String :=
  "Address           Age(min)   Hardware Addr      Interface" ::
    (d.neighbors devices).map fun n =>
      Text.columns [(17, n.ip.toText), (10, "0"), (18, n.mac)] n.localInterface

/-- `get router info routing-table`. -/
def routingTable (d : Device) : List String :=
  ["Codes: K - kernel, C - connected, S - static, R - RIP, B - BGP, O - OSPF", "",
    "Routing table for VRF=0"] ++
  d.routes.map (fun r =>
    (if r.isDefault then "S*" else "S ") ++ "      " ++ r.destination ++ " [10/0] via " ++
      r.nextHop ++
      (match d.routeInterface? r with
        | some name => ", " ++ name
        | none => "")) ++
  d.connectedNetworks.map fun c =>
    "C       " ++ c.network.toText ++ " is directly connected, " ++ c.interface

/-- The answer to a ping. -/
def pingReply (target : String) : List String :=
  ["PING " ++ target ++ " (56 data bytes)",
    "64 bytes from " ++ target ++ ": icmp_seq=0 ttl=255 time=0.9 ms"]

end TrainingLab.FortiOs
