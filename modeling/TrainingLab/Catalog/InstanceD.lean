import TrainingLab.Lab.Basic

/-
  Lab definition: Juniper Core + Palo Alto Edge.
-/

namespace TrainingLab.Catalog

/-- The lab "Instance D: Juniper Core + Palo Alto Edge". -/
def instanceD : LabDefinition where
  id := "lab-instance-d"
  title := "Instance D: Juniper Core + Palo Alto Edge"
  description := "Hybrid topology. Juniper core with a Palo Alto NGFW."
  difficulty := .advanced
  vendor := "Hybrid"
  devices := [
    { id := "dev-client"
      name := "Client"
      kind := .accessPoint
      vendor := .juniper
      interfaces := SortedMap.ofList [
          ("eth0", { ip := "192.168.10.10", mask := "255.255.255.0" })] },
    { id := "dev-sw"
      name := "EX-Switch"
      kind := .switch
      vendor := .juniper
      interfaces := SortedMap.ofList [
          ("irb.10", { ip := "192.168.10.1", mask := "255.255.255.0" }),
          ("ge-0/0/1", { ip := "192.168.20.1", mask := "255.255.255.252" })]
      routes := [
          { destination := "0.0.0.0/0", nextHop := "192.168.20.2" }] },
    { id := "dev-rtr"
      name := "MX-Router"
      kind := .router
      vendor := .juniper
      interfaces := SortedMap.ofList [
          ("ge-0/0/0", { ip := "192.168.20.2", mask := "255.255.255.252" }),
          ("ge-0/0/1", { ip := "10.0.0.1", mask := "255.255.255.252" })]
      routes := [
          { destination := "0.0.0.0/0", nextHop := "10.0.0.2" }] },
    { id := "dev-fw"
      name := "PA-Firewall"
      kind := .firewall
      vendor := .paloAlto
      interfaces := SortedMap.ofList [
          ("ethernet1/2", { ip := "10.0.0.2", mask := "255.255.255.252", zone := some "TRUST" }),
          ("ethernet1/1",
            { ip := "203.0.113.2", mask := "255.255.255.252", zone := some "UNTRUST" })]
      routes := [
          { destination := "0.0.0.0/0", nextHop := "203.0.113.1" }] },
    { id := "dev-isp"
      name := "ISP"
      kind := .cloud
      vendor := .internet
      interfaces := SortedMap.ofList [
          ("eth0", { ip := "203.0.113.1", mask := "255.255.255.252" })] }]
  topology := [
    { deviceId := "dev-client", label := "Client", icon := .accessPoint, x := .integer 50,
      y := .integer 150 },
    { deviceId := "dev-sw", label := "Juniper EX", icon := .switch, x := .integer 250,
      y := .integer 150 },
    { deviceId := "dev-rtr", label := "Juniper MX", icon := .router, x := .integer 450,
      y := .integer 150 },
    { deviceId := "dev-fw", label := "Palo Alto", icon := .firewall, x := .integer 650,
      y := .integer 150 },
    { deviceId := "dev-isp", label := "ISP", icon := .cloud, x := .integer 850,
      y := .integer 150 }]
  objectives := [
    "Verify Junos to PAN-OS connectivity",
    "Check Default Route on MX"]
  documentation := {
    initialConfig := "... See Instance C for Juniper and Instance B for Palo Alto details ..."
    packetFlow :=
      "Combined flow of Juniper switching and routing logic and Palo Alto zone-based " ++
      "security logic." }

end TrainingLab.Catalog
