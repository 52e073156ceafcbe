import TrainingLab.Lab.Basic

/-
  Lab definition: Cisco Core + Palo Alto Edge.
-/

namespace TrainingLab.Catalog

/-- The lab "Instance B: Cisco Core + Palo Alto Edge". -/
def instanceB : LabDefinition where
  id := "lab-instance-b"
  title := "Instance B: Cisco Core + Palo Alto Edge"
  description := "Hybrid topology. Cisco core with a Palo Alto NGFW for perimeter security."
  difficulty := .advanced
  vendor := "Hybrid"
  devices := [
    { id := "dev-client"
      name := "Client-VLAN10"
      kind := .accessPoint
      vendor := .cisco
      interfaces := SortedMap.ofList [
          ("eth0", { ip := "192.168.10.10", mask := "255.255.255.0" })] },
    { id := "dev-sw"
      name := "Core-SW"
      kind := .switch
      vendor := .cisco
      interfaces := SortedMap.ofList [
          ("Vlan10", { ip := "192.168.10.1", mask := "255.255.255.0" }),
          ("Gi0/2", { ip := "192.168.20.1", mask := "255.255.255.252" })]
      routes := [
          { destination := "0.0.0.0/0", nextHop := "192.168.20.2" }] },
    { id := "dev-rtr"
      name := "Edge-Rtr"
      kind := .router
      vendor := .cisco
      interfaces := SortedMap.ofList [
          ("Gi0/0", { ip := "192.168.20.2", mask := "255.255.255.252" }),
          ("Gi0/1", { ip := "10.0.0.1", mask := "255.255.255.252" })]
      routes := [
          { destination := "0.0.0.0/0", nextHop := "10.0.0.2" }] },
    { id := "dev-fw"
      name := "PA-Firewall"
      kind := .firewall
      vendor := .paloAlto
      interfaces := SortedMap.ofList [
          ("ethernet1/2", { ip := "10.0.0.2", mask := "255.255.255.252", zone := some "TRUST" }),
          ("ethernet1/1",
            { ip := "203.0.113.2", mask := "255.255.255.252", zone := some "UNTRUST" })]
      routes := [
          { destination := "0.0.0.0/0", nextHop := "203.0.113.1" }]
      policies := [
          { id := 1, name := "Allow-Outbound", fromZone := "TRUST", toZone := "UNTRUST",
            action := .allow, source := "any", destination := "any" }] },
    { id := "dev-isp"
      name := "ISP-Cloud"
      kind := .cloud
      vendor := .internet
      interfaces := SortedMap.ofList [
          ("eth0", { ip := "203.0.113.1", mask := "255.255.255.252" })] }]
  topology := [
    { deviceId := "dev-client", label := "Client", icon := .accessPoint, x := .integer 50,
      y := .integer 150 },
    { deviceId := "dev-sw", label := "Cisco SW", icon := .switch, x := .integer 250,
      y := .integer 150 },
    { deviceId := "dev-rtr", label := "Cisco Rtr", icon := .router, x := .integer 450,
      y := .integer 150 },
    { deviceId := "dev-fw", label := "Palo Alto", icon := .firewall, x := .integer 650,
      y := .integer 150 },
    { deviceId := "dev-isp", label := "ISP", icon := .cloud, x := .integer 850,
      y := .integer 150 }]
  objectives := [
    "Check Palo Alto Zone Configuration",
    "Verify Routing on Cisco Router"]
  documentation := {
    initialConfig :=
      "... See Instance A for Cisco details ...\n" ++
      "\n" ++
      "! Palo Alto\n" ++
      "set network interface ethernet ethernet1/2 layer3 ip 10.0.0.2/30\n" ++
      "set network interface ethernet ethernet1/1 layer3 ip 203.0.113.2/30"
    packetFlow :=
      "Packet traverses the Cisco core similar to Instance A. At Palo Alto:\n" ++
      "1. Ingress Eth1/2 (Trust).\n" ++
      "2. Route Lookup > 0.0.0.0/0 via Eth1/1.\n" ++
      "3. Security Policy \"Allow-Outbound\" Checked.\n" ++
      "4. NAT Applied.\n" ++
      "5. Egress Eth1/1." }

end TrainingLab.Catalog
