import TrainingLab.Lab.Basic

/-
  Lab definition: Cisco Core + Fortinet Edge.
-/

namespace TrainingLab.Catalog

/-- The lab "Instance A: Cisco Core + Fortinet Edge". -/
def instanceA : LabDefinition where
  id := "lab-instance-a"
  title := "Instance A: Cisco Core + Fortinet Edge"
  description :=
    "Hybrid topology. Cisco switching and routing provide the L3 gateway and connect to a " ++
    "FortiGate for NAT and security."
  difficulty := .intermediate
  vendor := "Hybrid"
  devices := [
    { id := "dev-client"
      name := "Client-VLAN10"
      kind := .accessPoint
      vendor := .cisco
      interfaces := SortedMap.ofList [
          ("eth0", { ip := "192.168.10.10", mask := "255.255.255.0" })]
      history := ["PC Terminal", "IP: 192.168.10.10", "Gateway: 192.168.10.1"] },
    { id := "dev-sw"
      name := "Core-SW"
      kind := .switch
      vendor := .cisco
      interfaces := SortedMap.ofList [
          ("Vlan10",
            { ip := "192.168.10.1", mask := "255.255.255.0", description := some "GW-Client" }),
          ("Gi0/1", { vlan := some 10, description := some "Downlink" }),
          ("Gi0/2",
            { ip := "192.168.20.1", mask := "255.255.255.252", description := some "Uplink-Rtr" })]
      routes := [
          { destination := "0.0.0.0/0", nextHop := "192.168.20.2" }]
      vlans := SortedMap.ofList [(10, "Data")] },
    { id := "dev-rtr"
      name := "Edge-Rtr"
      kind := .router
      vendor := .cisco
      interfaces := SortedMap.ofList [
          ("Gi0/0",
            { ip := "192.168.20.2", mask := "255.255.255.252",
              description := some "Downlink-SW" }),
          ("Gi0/1",
            { ip := "10.0.0.1", mask := "255.255.255.252", description := some "Uplink-FW" })]
      routes := [
          { destination := "192.168.10.0/24", nextHop := "192.168.20.1",
            interface := some "Gi0/0" },
          { destination := "0.0.0.0/0", nextHop := "10.0.0.2", interface := some "Gi0/1" }] },
    { id := "dev-fw"
      name := "FortiGate"
      kind := .firewall
      vendor := .fortinet
      interfaces := SortedMap.ofList [
          ("port2", { ip := "10.0.0.2", mask := "255.255.255.252", zone := some "LAN" }),
          ("port1", { ip := "203.0.113.2", mask := "255.255.255.252", zone := some "WAN" })]
      routes := [
          { destination := "192.168.0.0/16", nextHop := "10.0.0.1" },
          { destination := "0.0.0.0/0", nextHop := "203.0.113.1" }]
      policies := [
          { id := 1, name := "LAN_TO_WAN", fromZone := "port2", toZone := "port1",
            action := .allow, source := "all", destination := "all" }] },
    { id := "dev-isp"
      name := "ISP-Cloud"
      kind := .cloud
      vendor := .internet
      interfaces := SortedMap.ofList [
          ("eth0", { ip := "203.0.113.1", mask := "255.255.255.252" })]
      history := ["ISP Provider Gateway"] }]
  topology := [
    { deviceId := "dev-client", label := "Client", icon := .accessPoint, x := .integer 50,
      y := .integer 150 },
    { deviceId := "dev-sw", label := "Cisco SW", icon := .switch, x := .integer 250,
      y := .integer 150 },
    { deviceId := "dev-rtr", label := "Cisco Rtr", icon := .router, x := .integer 450,
      y := .integer 150 },
    { deviceId := "dev-fw", label := "FortiGate", icon := .firewall, x := .integer 650,
      y := .integer 150 },
    { deviceId := "dev-isp", label := "ISP", icon := .cloud, x := .integer 850,
      y := .integer 150 }]
  objectives := [
    "Verify Client (192.168.10.10) Gateway Reachability",
    "Check Cisco Switch Routing Table (0.0.0.0/0 via Router)",
    "Verify FortiGate NAT Policy LAN_TO_WAN"]
  documentation := {
    initialConfig :=
      "! Cisco Switch\n" ++
      "interface Vlan10\n" ++
      " ip address 192.168.10.1 255.255.255.0\n" ++
      "!\n" ++
      "interface Gi0/2\n" ++
      " no switchport\n" ++
      " ip address 192.168.20.1 255.255.255.252\n" ++
      "!\n" ++
      "ip route 0.0.0.0 0.0.0.0 192.168.20.2\n" ++
      "\n" ++
      "! Cisco Router\n" ++
      "interface Gi0/0\n" ++
      " ip address 192.168.20.2 255.255.255.252\n" ++
      "!\n" ++
      "interface Gi0/1\n" ++
      " ip address 10.0.0.1 255.255.255.252\n" ++
      "!\n" ++
      "ip route 0.0.0.0 0.0.0.0 10.0.0.2\n" ++
      "\n" ++
      "! FortiGate\n" ++
      "config system interface\n" ++
      " edit port1\n" ++
      "  set ip 203.0.113.2 255.255.255.252\n" ++
      " next\n" ++
      " edit port2\n" ++
      "  set ip 10.0.0.2 255.255.255.252\n" ++
      " next\n" ++
      "end"
    packetFlow :=
      "1. Client (192.168.10.10) sends packet to 8.8.8.8.\n" ++
      "2. Switch receives on Access Port. Looks up the routing table. Matches 0.0.0.0/0 via " ++
      "192.168.20.2.\n" ++
      "3. Switch forwards to Router via Gi0/2.\n" ++
      "4. Router receives on Gi0/0. Looks up the routing table. Matches 0.0.0.0/0 via " ++
      "10.0.0.2.\n" ++
      "5. Router forwards to FortiGate via Gi0/1.\n" ++
      "6. FortiGate receives on port2. Matches Policy \"LAN_TO_WAN\".\n" ++
      "7. FortiGate performs Source NAT (Overload) to 203.0.113.2.\n" ++
      "8. FortiGate forwards to ISP." }

end TrainingLab.Catalog
