import TrainingLab.Network.Address
import TrainingLab.Text.Words

/-
  Addresses with a prefix length, and the notations of a netmask: dotted (`255.255.255.0`) or as
  a length (`24`, `/24`).
-/

namespace TrainingLab.Network

/-- The prefix length a netmask stands for, in any notation; blanks around it count for nothing,
    and so do slashes in front of a length. -/
def readMask? (mask : String) : Option Nat :=
  let mask := Text.trim mask
  if Text.hasChar '.' mask then (Address.ofText? mask).bind maskLength?
  else Text.readBelow? 33 (String.ofList (mask.toList.dropWhile (· == '/')))

/-- An address together with the length of its network part. -/
structure Cidr where
  address : Address
  length : Nat
  length_le : length ≤ 32 := by decide
deriving DecidableEq, Repr

namespace Cidr

/-- The address and the length, if there is such a length. -/
def ofLength? (address : Address) (length : Nat) : Option Cidr :=
  if h : length ≤ 32 then some { address, length, length_le := h } else none

/-- The address alone, as a network of its own. -/
def host (address : Address) : Cidr := { address, length := 32 }

/-- The network: the address with a zero in every bit of the host part. -/
def network (c : Cidr) : Cidr :=
  { address := Address.ofNat (c.address.toNat / networkSize c.length * networkSize c.length)
    length := c.length
    length_le := c.length_le }

/-- The dotted mask. -/
def mask (c : Cidr) : Address := maskOf c.length

/-- The address lies in the network. -/
def covers (c : Cidr) (a : Address) : Bool :=
  c.address.toNat / networkSize c.length == a.toNat / networkSize c.length

/-- The address, a slash and the length. -/
def toText (c : Cidr) : String := c.address.toText ++ "/" ++ toString c.length

end Cidr

/-- The address and the mask, as they were written. -/
def readCidr? (address mask : String) : Option Cidr :=
  match Address.ofText? address, readMask? mask with
  | some a, some n => Cidr.ofLength? a n
  | _, _ => none

/-- The network of an address under a mask. -/
def readNetwork? (address mask : String) : Option Cidr := (readCidr? address mask).map Cidr.network

/-- The network of an address with a mask behind a slash. -/
def readPrefix? (s : String) : Option Cidr :=
  match Text.splitFirst? (· == '/') s with
  | some (address, mask) => readNetwork? address mask
  | none => none

/-- A prefix in its canonical text; a text that is no prefix stays as it is. -/
def canonicalPrefix (s : String) : String :=
  match readPrefix? s with
  | some net => net.toText
  | none => s

/-- The network address and the dotted mask of a prefix; what is no prefix has no mask. -/
def networkAndMask (s : String) : String × String :=
  match readPrefix? s with
  | some net => (net.address.toText, net.mask.toText)
  | none => (s, "")

end TrainingLab.Network
