import TrainingLab.Lab.Basic

/-
  Lab definition: Branch Router + Cloud NSG.
-/

namespace TrainingLab.Catalog

/-- The lab "Instance E: Branch Router + Cloud NSG". -/
def instanceE : LabDefinition where
  id := "lab-instance-e"
  title := "Instance E: Branch Router + Cloud NSG"
  description :=
    "A Cisco branch router connects to a cloud virtual network. A network security group " ++
    "filters traffic towards a web VM by rule priority."
  difficulty := .expert
  vendor := "Hybrid"
  devices := [
    { id := "dev-client"
      name := "Branch-PC"
      kind := .accessPoint
      vendor := .cisco
      interfaces := SortedMap.ofList [
          ("eth0", { ip := "172.16.1.10", mask := "255.255.255.0" })]
      history := ["PC Terminal", "IP: 172.16.1.10", "Gateway: 172.16.1.1"] },
    { id := "dev-rtr"
      name := "Branch-Rtr"
      kind := .router
      vendor := .cisco
      interfaces := SortedMap.ofList [
          ("Gi0/0", { ip := "172.16.1.1", mask := "255.255.255.0", description := some "LAN" }),
          ("Gi0/1",
            { ip := "100.64.0.1", mask := "255.255.255.252", description := some "Cloud-Uplink" })]
      routes := [
          { destination := "0.0.0.0/0", nextHop := "100.64.0.2", interface := some "Gi0/1" }] },
    { id := "dev-nsg"
      name := "VNet-NSG"
      kind := .cloud
      vendor := .internet
      interfaces := SortedMap.ofList [
          ("eth0", { ip := "100.64.0.2", mask := "255.255.255.252", zone := some "Internet" }),
          ("eth1", { ip := "10.10.1.1", mask := "255.255.255.0", zone := some "VirtualNetwork" })]
      routes := [
          { destination := "172.16.0.0/16", nextHop := "100.64.0.1", interface := some "eth0" }]
      policies := [
          { id := 1, name := "Allow-Web-Legacy", fromZone := "Internet",
            toZone := "VirtualNetwork", action := .allow, priority := some 300,
            protocol := some .tcp, port := some 80, source := "any", destination := "10.10.1.4" },
          { id := 2, name := "Allow-HTTPS", fromZone := "Internet", toZone := "VirtualNetwork",
            action := .allow, priority := some 100, protocol := some .tcp, port := some 443,
            source := "any", destination := "10.10.1.4" },
          { id := 3, name := "Allow-HTTP", fromZone := "Internet", toZone := "VirtualNetwork",
            action := .allow, priority := some 110, protocol := some .tcp, port := some 80,
            source := "any", destination := "10.10.1.4" },
          { id := 4, name := "Deny-Telnet", fromZone := "Internet", toZone := "VirtualNetwork",
            action := .deny, priority := some 200, protocol := some .tcp, port := some 23,
            source := "any", destination := "any" },
          { id := 5, name := "Allow-DNS", fromZone := "Internet", toZone := "VirtualNetwork",
            action := .allow, protocol := some .udp, port := some 53, source := "any",
            destination := "any" },
          { id := 6, name := "Deny-All", fromZone := "any", toZone := "any", action := .deny,
            priority := some 4096, source := "any", destination := "any" }] },
    { id := "dev-vm"
      name := "Web-VM"
      kind := .cloud
      vendor := .internet
      interfaces := SortedMap.ofList [
          ("eth0", { ip := "10.10.1.4", mask := "255.255.255.0" })]
      routes := [
          { destination := "0.0.0.0/0", nextHop := "10.10.1.1", interface := some "eth0" }] }]
  topology := [
    { deviceId := "dev-client", label := "Branch PC", icon := .accessPoint, x := .integer 50,
      y := .integer 150 },
    { deviceId := "dev-rtr", label := "Branch Rtr", icon := .router, x := .integer 300,
      y := .integer 150 },
    { deviceId := "dev-nsg", label := "NSG", icon := .cloud, x := .integer 550,
      y := .integer 150 },
    { deviceId := "dev-vm", label := "Web VM", icon := .cloud, x := .integer 800,
      y := .integer 150 }]
  objectives := [
    "Inspect the NSG rules ordered by priority",
    "Simulate HTTPS and SSH towards the web VM and explain the outcome",
    "Verify the default route of the branch router"]
  documentation := {
    initialConfig :=
      "! Cisco Branch Router\n" ++
      "interface Gi0/0\n" ++
      " ip address 172.16.1.1 255.255.255.0\n" ++
      "!\n" ++
      "interface Gi0/1\n" ++
      " ip address 100.64.0.1 255.255.255.252\n" ++
      "!\n" ++
      "ip route 0.0.0.0 0.0.0.0 100.64.0.2\n" ++
      "\n" ++
      "# Cloud NSG (priority, name, port, action)\n" ++
      "100   Allow-HTTPS       tcp/443  allow\n" ++
      "110   Allow-HTTP        tcp/80   allow\n" ++
      "200   Deny-Telnet       tcp/23   deny\n" ++
      "300   Allow-Web-Legacy  tcp/80   allow\n" ++
      "4096  Deny-All          any      deny\n" ++
      "-     Allow-DNS         udp/53   allow"
    packetFlow :=
      "1. Branch PC sends the packet to its gateway 172.16.1.1.\n" ++
      "2. Branch router matches 0.0.0.0/0 via 100.64.0.2 and forwards to the cloud edge.\n" ++
      "3. The NSG evaluates allow rules in priority order. The first matching allow rule " ++
      "lets the packet pass.\n" ++
      "4. If no allow rule matches, an explicit deny rule or the implicit deny drops the " ++
      "packet.\n" ++
      "5. Allowed packets reach the web VM on 10.10.1.4." }

end TrainingLab.Catalog
