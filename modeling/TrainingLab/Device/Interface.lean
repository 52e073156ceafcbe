import TrainingLab.Network.Cidr

/-
  The configuration of one interface. Address and mask are kept as they were written; what they
  mean on the wire is read off when it is needed.
-/

namespace TrainingLab

/-- Keeps a value unless it is the empty text. -/
def nonempty? (s : Option String) : Option String := s.filter fun s => s != ""

/-- One interface of a device. An empty address means that there is none. -/
structure Interface where
  ip : String := ""
  mask : String := ""
  up : Bool := true
  vlan : Option UInt16 := none
  zone : Option String := none
  description : Option String := none
deriving DecidableEq, Repr, Inhabited

namespace Interface

/-! ## Settings -/

/-- Sets the address and the mask, the mask in any notation. -/
def setAddress (i : Interface) (ip mask : String) : Interface := { i with ip, mask }

/-- Sets the address and the length behind its slash. Without a slash the mask stays. -/
def setCidr (i : Interface) (cidr : String) : Interface :=
  match Text.splitFirst? (· == '/') cidr with
  | some (ip, length) => i.setAddress ip length
  | none => { i with ip := cidr }

/-- Removes the address. -/
def clearAddress (i : Interface) : Interface := i.setAddress "" ""

/-- Enables or disables the interface. -/
def setUp (i : Interface) (up : Bool) : Interface := { i with up }

/-- Puts the interface into a VLAN, or into none. -/
def setVlan (i : Interface) (vlan : Option UInt16) : Interface := { i with vlan }

/-- Puts the interface into a zone, or into none. -/
def setZone (i : Interface) (zone : Option String) : Interface := { i with zone := nonempty? zone }

/-- Sets or removes the description. -/
def setDescription (i : Interface) (description : Option String) : Interface :=
  { i with description := nonempty? description }

/-! ## Reading -/

/-- The address, if it is one. -/
def address? (i : Interface) : Option Network.Address := Network.Address.ofText? i.ip

/-- The prefix length, if the mask is one. -/
def prefixLength? (i : Interface) : Option Nat := Network.readMask? i.mask

/-- The address with its prefix length, host bits included. -/
def net? (i : Interface) : Option Network.Cidr := Network.readCidr? i.ip i.mask

/-- The address with its length, or as it was written if they make no network. -/
def cidr (i : Interface) : String :=
  match i.net? with
  | some net => net.toText
  | none => i.ip

/-- The dotted mask, or the mask as it was written if there is no network. -/
def dottedMask (i : Interface) : String :=
  match i.net? with
  | some net => net.mask.toText
  | none => i.mask

/-- There is an address to be used on the wire. -/
def isAddressed (i : Interface) : Bool := i.address?.isSome

/-- The word for the state of the interface. -/
def state (i : Interface) : String := if i.up then "up" else "down"

end Interface

end TrainingLab
