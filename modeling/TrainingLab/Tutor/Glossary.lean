import TrainingLab.SortedMap

/-
  The glossary of the tutor.
-/

namespace TrainingLab.Tutor

/-- The terms with their explanations. -/
def glossary : SortedMap String String := SortedMap.ofList [
  ("arp",
    "ARP maps an IPv4 address to a MAC address on the local segment. It is the phone " ++
    "book a host looks into before it can send a frame to its neighbor."),
  ("bgp",
    "BGP exchanges reachability between autonomous systems. Routers pick the best path " ++
    "by comparing attributes like local preference and AS path length."),
  ("cdp",
    "CDP is a discovery protocol that lets directly connected devices learn each other's " ++
    "hostname, platform and port. LLDP is the vendor-neutral equivalent."),
  ("commit",
    "Junos keeps changes in a candidate configuration. Nothing takes effect until you " ++
    "commit, and `show | compare` lists what would change."),
  ("dns",
    "DNS translates names into addresses. Clients ask a resolver over udp/53, much like " ++
    "looking up a contact before making a call."),
  ("firewall",
    "A firewall forwards traffic between zones only if a policy allows it. Everything " ++
    "that no policy allows is dropped by the implicit deny."),
  ("nat",
    "NAT rewrites addresses at the edge of a network. With overload, many private hosts " ++
    "share one public address and are told apart by their ports."),
  ("nsg",
    "A network security group filters cloud traffic with prioritized rules. The lowest " ++
    "priority number is evaluated first."),
  ("ospf",
    "OSPF is a link-state routing protocol. Every router floods its links in the area " ++
    "and computes shortest paths with Dijkstra's algorithm."),
  ("ping",
    "Ping sends ICMP echo requests and waits for the replies. It is the first test of " ++
    "whether a destination is reachable at all."),
  ("route",
    "A route tells a device where to send packets for a destination prefix. The default " ++
    "route 0.0.0.0/0 matches everything that nothing more specific matches."),
  ("subnet",
    "A subnet is a range of addresses that share a prefix. Hosts in the same subnet talk " ++
    "directly; everything else goes through a gateway."),
  ("vlan",
    "A VLAN splits one physical switch into separate broadcast domains, like separate " ++
    "rooms in one building. Access ports belong to exactly one VLAN."),
  ("zone",
    "A security zone groups interfaces with the same trust level. Firewall policies are " ++
    "written between zones, not between single interfaces.")]

end TrainingLab.Tutor
