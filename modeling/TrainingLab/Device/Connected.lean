import TrainingLab.Device.Basic

/-
  The networks that a device is attached to, and the interface towards an address.
-/

namespace TrainingLab

/-- The network of an interface that is up, the interface's own address, and its name. -/
structure ConnectedNetwork where
  network : Network.Cidr
  host : Network.Cidr
  interface : String
deriving DecidableEq

namespace Device

/-- The networks of all interfaces that are up and have an address and a mask. -/
def connectedNetworks (d : Device) : List ConnectedNetwork :=
  d.interfaces.entries.filterMap fun (name, i) =>
    if i.up then
      i.net?.map fun net =>
        { network := net.network, host := Network.Cidr.host net.address, interface := name }
    else none

/-- The first interface whose network holds the next hop of a route. -/
def egress? (d : Device) (r : Route) : Option String :=
  (Network.Address.ofText? r.nextHop).bind fun nextHop =>
    (d.connectedNetworks.find? fun c => c.network.covers nextHop).map ConnectedNetwork.interface

/-- The interface of a route: the one it names, else the one towards its next hop. -/
def routeInterface? (d : Device) (r : Route) : Option String := r.interface.or (d.egress? r)

/-- The commands entered so far, read off the history: the lines that begin like a prompt, after
    the mark that ends it. -/
def enteredCommands (d : Device) : List String :=
  (d.history.filter fun l =>
    Text.begins d.name l || Text.begins "root@" l || Text.begins "admin@" l).filterMap fun l =>
      (Text.splitFirst? (fun c => c == '>' || c == '#') l).bind fun (_, command) =>
        let command := Text.trim command
        if command == "" then none else some ("  " ++ command)

end Device

end TrainingLab
