/-
  What a device is: its class, its vendor, and the family of command lines its vendor speaks.
-/

namespace TrainingLab

/-- The class of a device, which is also its icon on the topology. -/
inductive DeviceClass
  | router
  | switch
  | firewall
  | accessPoint
  | cloud
deriving DecidableEq, Repr

namespace DeviceClass

/-- All classes. -/
def all : List DeviceClass := [router, switch, firewall, accessPoint, cloud]

/-- The name of the class. -/
def name : DeviceClass → String
  | router => "Router"
  | switch => "Switch"
  | firewall => "Firewall"
  | accessPoint => "AccessPoint"
  | cloud => "Cloud"

end DeviceClass

/-- The vendor of a device. -/
inductive Vendor
  | cisco
  | aruba
  | extreme
  | juniper
  | fortinet
  | paloAlto
  | internet
deriving DecidableEq, Repr

/-- A family of command lines. Every vendor speaks one. -/
inductive Family
  | cisco
  | juniper
  | fortinet
  | paloAlto
  | cloud
deriving DecidableEq, Repr

namespace Vendor

/-- All vendors. -/
def all : List Vendor := [cisco, aruba, extreme, juniper, fortinet, paloAlto, internet]

/-- The name of the vendor. -/
def name : Vendor → String
  | cisco => "Cisco"
  | aruba => "Aruba"
  | extreme => "Extreme"
  | juniper => "Juniper"
  | fortinet => "Fortinet"
  | paloAlto => "Palo Alto"
  | internet => "Internet"

/-- The command line the vendor's devices have. -/
def family : Vendor → Family
  | cisco => .cisco
  | aruba => .cisco
  | extreme => .cisco
  | juniper => .juniper
  | fortinet => .fortinet
  | paloAlto => .paloAlto
  | internet => .cloud

/-- What a console shows when a device of the vendor boots. -/
def bootBanner (v : Vendor) : List String :=
  match v.family with
  | .cisco => ["Cisco IOS Software, Version 17.3.4", "Press RETURN to get started!"]
  | .juniper => ["Junos OS 21.4R1.12", "root@device% cli", "\x7bmaster:0\x7d"]
  | .fortinet => ["FortiGate-VM64 v7.2.0", "Login: admin", "Password:", "Welcome!"]
  | .paloAlto => ["PA-VM", "Welcome to PanOS", "admin@PA-VM>"]
  | .cloud => []

end Vendor

end TrainingLab
