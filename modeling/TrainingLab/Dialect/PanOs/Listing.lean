import TrainingLab.Device.Connected
import TrainingLab.Device.Neighbor

/-
  What the inspection commands of PAN-OS print.
-/

namespace TrainingLab.PanOs

/-- `show system info`. -/
def systemInfo (d : Device) : List String :=
  ["hostname: " ++ d.name, "ip-address: 192.168.1.99", "uptime: 2 days, 4:02:12",
    "sw-version: 10.1.0", "model: PA-VM"]

/-- `show interface all`. -/
def interfaceSummary (d : Device) : List String :=
  d.interfaces.entries.map fun (name, i) =>
    "name: " ++ name ++ ", state: " ++ i.state ++ ", ip: " ++ i.cidr ++ ", zone: " ++
      i.zone.getD "N/A"

/-- The row of the interface at a position. -/
def logicalRow (position : Nat) (name : String) (i : Interface) : String :=
  Text.columns
    [(14, name), (5, toString (16 + position)), (4, "1"), (16, i.zone.getD ""), (15, "0")] i.cidr

/-- `show interface logical`. -/
def logicalInterfaces (d : Device) : List String :=
  ["total configured logical interfaces: " ++ toString d.interfaces.size,
    "name           id    vsys zone             forwarding-tag  ip-address"] ++
  d.interfaces.entries.mapIdx fun position (name, i) => logicalRow position name i

/-- `show interface hardware`. -/
def hardwareInterfaces (d : Device) : List String :=
  (d.interfaces.entries.mapIdx fun position (name, i) =>
    ["Port: " ++ name ++ ", Name: " ++ name ++ ", MAC: 00:50:56:00:00:" ++
        Text.hexByte (position + 1),
      "Speed: 10000, Duplex: full, State: " ++ i.state]).flatten

/-- `show arp all`. -/
def arpTable (d : Device) (devices : Inventory) : List String :=
  "interface         ip-address      mac-address       port" ::
    (d.neighbors devices).map fun n =>
      Text.columns [(17, n.localInterface), (15, n.ip.toText), (17, n.mac)] n.localInterface

/-- The columns of a route. -/
def routeColumns (destination nextHop metric flags interface : String) : String :=
  Text.columns [(15, destination), (17, nextHop), (6, metric), (16, flags)] interface

/-- `show routing route`. -/
def routingTable (d : Device) : List String :=
  ["VIRTUAL ROUTER: default (id 1)",
    "destination     nexthop           metric flags      age   interface"] ++
  d.routes.map (fun r =>
    routeColumns r.destination r.nextHop "10" "A S" ((d.routeInterface? r).getD "")) ++
  d.connectedNetworks.map fun c =>
    routeColumns c.network.toText c.host.address.toText "0" "A C" c.interface

/-- The block of a security rule. -/
def ruleBlock (p : Policy) : List String :=
  ["\"" ++ p.name ++ "\" \x7b",
    "        from " ++ p.fromZone ++ ";",
    "        source " ++ p.source ++ ";",
    "        to " ++ p.toZone ++ ";",
    "        destination " ++ p.destination ++ ";",
    "        service " ++ p.service ++ ";",
    "        action " ++ p.action.name ++ ";",
    "\x7d"]

/-- `show running security-policy`. -/
def securityPolicy (d : Device) : List String :=
  if d.policies.isEmpty then ["No security policies configured."]
  else d.policies.flatMap ruleBlock

/-- The answer to a ping. -/
def pingReply (target : String) : List String :=
  ["PING " ++ target ++ " (" ++ target ++ ") 56(84) bytes of data.",
    "64 bytes from " ++ target ++ ": icmp_seq=1 ttl=118 time=4.20 ms"]

end TrainingLab.PanOs
