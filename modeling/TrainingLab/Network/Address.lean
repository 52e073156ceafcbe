import TrainingLab.Text.Decimal

/-
  IPv4 addresses and their dotted text. An address is its four octets; `toNat` reads them as one
  number of 32 bits, on which masks are divisions by powers of two.
-/

namespace TrainingLab.Network

/-- An IPv4 address, most significant octet first. -/
structure Address where
  first : UInt8
  second : UInt8
  third : UInt8
  fourth : UInt8
deriving DecidableEq, Repr, Inhabited

namespace Address

/-- The number of 32 bits that the octets spell. -/
def toNat (a : Address) : Nat :=
  ((a.first.toNat * 256 + a.second.toNat) * 256 + a.third.toNat) * 256 + a.fourth.toNat

/-- The address with the lower 32 bits of the number. -/
def ofNat (n : Nat) : Address :=
  ⟨UInt8.ofNat (n / 16777216), UInt8.ofNat (n / 65536), UInt8.ofNat (n / 256), UInt8.ofNat n⟩

/-- One to three digits worth at most 255, without a leading zero. -/
def readOctet? (cs : List Char) : Option UInt8 :=
  if cs.length > 3 ∨ (cs.length > 1 ∧ cs.head? = some '0') then none
  else ((Text.readDigits? cs).filter fun n => decide (n < 256)).map UInt8.ofNat

/-- Four octets with points between them, and nothing else. -/
def ofText? (s : String) : Option Address :=
  match (s.toList.splitOn '.').mapM readOctet? with
  | some [a, b, c, d] => some ⟨a, b, c, d⟩
  | _ => none

/-- The octets in decimal, with points between them. -/
def toText (a : Address) : String :=
  toString a.first ++ "." ++ toString a.second ++ "." ++ toString a.third ++ "." ++
    toString a.fourth

/-- The first three octets agree. -/
def sharesSubnet (a b : Address) : Bool :=
  a.first == b.first && a.second == b.second && a.third == b.third

end Address

/-- The number of addresses in a network of a prefix length. -/
def networkSize (length : Nat) : Nat := 1 <<< (32 - length)

/-- The mask of a prefix length: as many ones as its length, then zeros. -/
def maskOf (length : Nat) : Address := Address.ofNat (UInt32.size - networkSize length)

/-- The length of a mask that is ones followed by zeros. -/
def maskLength? (mask : Address) : Option Nat := (List.range 33).find? fun n => maskOf n == mask

end TrainingLab.Network
