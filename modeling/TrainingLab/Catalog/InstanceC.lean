import TrainingLab.Lab.Basic

/-
  Lab definition: Juniper Core + Fortinet Edge.
-/

namespace TrainingLab.Catalog

/-- The lab "Instance C: Juniper Core + Fortinet Edge". -/
def instanceC : LabDefinition where
  id := "lab-instance-c"
  title := "Instance C: Juniper Core + Fortinet Edge"
  description := "Hybrid topology. Juniper EX/MX core with a FortiGate."
  difficulty := .advanced
  vendor := "Hybrid"
  devices := [
    { id := "dev-client"
      name := "Client"
      kind := .accessPoint
      vendor := .juniper
      interfaces := SortedMap.ofList [
          ("eth0", { ip := "192.168.10.10", mask := "255.255.255.0" })] },
    { id := "dev-sw"
      name := "EX-Switch"
      kind := .switch
      vendor := .juniper
      interfaces := SortedMap.ofList [
          ("irb.10", { ip := "192.168.10.1", mask := "255.255.255.0" }),
          ("ge-0/0/1", { ip := "192.168.20.1", mask := "255.255.255.252" })]
      routes := [
          { destination := "0.0.0.0/0", nextHop := "192.168.20.2" }] },
    { id := "dev-rtr"
      name := "MX-Router"
      kind := .router
      vendor := .juniper
      interfaces := SortedMap.ofList [
          ("ge-0/0/0", { ip := "192.168.20.2", mask := "255.255.255.252" }),
          ("ge-0/0/1", { ip := "10.0.0.1", mask := "255.255.255.252" })]
      routes := [
          { destination := "0.0.0.0/0", nextHop := "10.0.0.2" }] },
    { id := "dev-fw"
      name := "FortiGate"
      kind := .firewall
      vendor := .fortinet
      interfaces := SortedMap.ofList [
          ("port2", { ip := "10.0.0.2", mask := "255.255.255.252", zone := some "LAN" }),
          ("port1", { ip := "203.0.113.2", mask := "255.255.255.252", zone := some "WAN" })]
      routes := [
          { destination := "0.0.0.0/0", nextHop := "203.0.113.1" }] },
    { id := "dev-isp"
      name := "ISP"
      kind := .cloud
      vendor := .internet
      interfaces := SortedMap.ofList [
          ("eth0", { ip := "203.0.113.1", mask := "255.255.255.252" })] }]
  topology := [
    { deviceId := "dev-client", label := "Client", icon := .accessPoint, x := .integer 50,
      y := .integer 150 },
    { deviceId := "dev-sw", label := "Juniper EX", icon := .switch, x := .integer 250,
      y := .integer 150 },
    { deviceId := "dev-rtr", label := "Juniper MX", icon := .router, x := .integer 450,
      y := .integer 150 },
    { deviceId := "dev-fw", label := "FortiGate", icon := .firewall, x := .integer 650,
      y := .integer 150 },
    { deviceId := "dev-isp", label := "ISP", icon := .cloud, x := .integer 850,
      y := .integer 150 }]
  objectives := [
    "Verify Junos Static Routes",
    "Check FortiOS Interfaces"]
  documentation := {
    initialConfig :=
      "! Juniper EX\n" ++
      "set interfaces irb unit 10 family inet address 192.168.10.1/24\n" ++
      "set routing-options static route 0.0.0.0/0 next-hop 192.168.20.2\n" ++
      "\n" ++
      "! Juniper MX\n" ++
      "set interfaces ge-0/0/0 unit 0 family inet address 192.168.20.2/30"
    packetFlow :=
      "Packet traverses the Juniper core. IRB.10 routes to MX ge-0/0/0. MX routes to " ++
      "FortiGate port2." }

end TrainingLab.Catalog
