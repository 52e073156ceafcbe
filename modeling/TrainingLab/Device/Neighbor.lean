import TrainingLab.Device.Basic

/-
  Neighbor discovery. Two devices are neighbors over a pair of interfaces that are both up and
  whose addresses share their first three octets. Only the configurations count.
-/

namespace TrainingLab

/-- A device seen over a local interface. -/
structure Neighbor where
  localInterface : String
  deviceId : DeviceId
  hostname : String
  kind : DeviceClass
  remoteInterface : String
  ip : Network.Address
deriving DecidableEq

/-- A form of the neighbor table: hardware addresses, or hostnames and ports. -/
inductive NeighborTable
  | arp
  | cdp
deriving DecidableEq, Repr

namespace Neighbor

/-- A made-up hardware address: the last two and the first two characters of the device id, and
    the last octet of the address. -/
def mac (n : Neighbor) : String :=
  let id := n.deviceId.toList
  "00" ++ String.ofList (id.drop (id.length - 2)) ++ ":" ++ String.ofList (id.take 2) ++ ":5e:" ++
    toString n.ip.fourth

/-- The row of the neighbor in an ARP table. -/
def arpRow (n : Neighbor) : String :=
  Text.columns [(15, n.ip.toText), (9, "00:05:00"), (16, n.mac), (6, "ARPA")] n.localInterface

/-- The row of the neighbor in a CDP table. -/
def cdpRow (n : Neighbor) : String :=
  Text.columns
    [(20, n.hostname), (15, n.localInterface), (9, "150"), (8, "R S I"), (10, n.kind.name)]
    n.remoteInterface

/-- The row of the neighbor in a table. -/
def row (table : NeighborTable) (n : Neighbor) : String :=
  match table with
  | .arp => n.arpRow
  | .cdp => n.cdpRow

/-- The neighbor in one line of prose. -/
def summary (n : Neighbor) : String :=
  n.hostname ++ " (" ++ n.ip.toText ++ ") via " ++ n.localInterface ++ " -> " ++ n.remoteInterface

end Neighbor

namespace Device

/-- The interfaces that are up and have an address, in order of their names. -/
def reachableInterfaces (d : Device) : List (String × Network.Address) :=
  d.interfaces.entries.filterMap fun (name, i) =>
    if i.up then i.address?.map fun a => (name, a) else none

/-- The neighbors that a peer makes over one local interface. -/
def neighborsOver (name : String) (address : Network.Address) (peer : Device) : List Neighbor :=
  peer.reachableInterfaces.filterMap fun (remote, ip) =>
    if ip.sharesSubnet address then
      some
        { localInterface := name
          deviceId := peer.id
          hostname := peer.name
          kind := peer.kind
          remoteInterface := remote
          ip }
    else none

/-- All neighbors: by local interface, then by the peer's id, then by the peer's interface. -/
def neighbors (d : Device) (devices : Inventory) : List Neighbor :=
  d.reachableInterfaces.flatMap fun (name, address) =>
    (devices.values.filter fun peer => peer.id != d.id).flatMap (neighborsOver name address)

/-- The neighbor table of a device. -/
def neighborRows (d : Device) (devices : Inventory) (table : NeighborTable) : List String :=
  (d.neighbors devices).map (Neighbor.row table)

end Device

end TrainingLab
