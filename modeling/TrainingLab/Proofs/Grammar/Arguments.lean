import TrainingLab.Proofs.Grammar.Matching
import TrainingLab.Proofs.Network.Notation

/-
  Which words the kinds of placeholders take. Addresses and dotted masks have one text each, so the
  words are the texts of these. Numbers are taken in the digits they are written with.
-/

namespace TrainingLab.Grammar

theorem ne_empty_of_accepts {kind : ArgumentKind} (hkind : kind.accepts "" = false)
    {token : String} (h : kind.accepts token = true) : token ≠ "" := by
  rintro rfl
  rw [hkind] at h
  cases h

theorem accepts_address (a : Network.Address) :
    ArgumentKind.address.accepts a.toText = true := by
  rw [ArgumentKind.accepts, a.ofText?_toText]
  rfl

theorem accepts_mask (net : Network.Cidr) :
    ArgumentKind.mask.accepts net.mask.toText = true := by
  obtain ⟨hread, hpoint⟩ := Network.readMask?_maskOf net.length_le
  rw [ArgumentKind.accepts, Network.Cidr.mask, hread, hpoint]
  rfl

/-- The words taken for an address are the texts of addresses. -/
theorem exists_address {token : String} (h : ArgumentKind.address.accepts token = true) :
    ∃ a : Network.Address, token = a.toText := by
  obtain ⟨a, ha⟩ := Option.isSome_iff_exists.mp h
  exact ⟨a, Network.Address.eq_toText_of_ofText? ha⟩

/-- The words taken for an address and for a mask are those of a network. -/
theorem exists_cidr {ip mask : String} (hip : ArgumentKind.address.accepts ip = true)
    (hunbroken : Text.Unbroken mask) (hmask : ArgumentKind.mask.accepts mask = true) :
    ∃ net : Network.Cidr, ip = net.address.toText ∧ mask = net.mask.toText := by
  obtain ⟨a, rfl⟩ := exists_address hip
  rw [ArgumentKind.accepts, Bool.and_eq_true] at hmask
  obtain ⟨n, hn⟩ := Option.isSome_iff_exists.mp hmask.2
  let net : Network.Cidr :=
    { address := a, length := n, length_le := Network.le_of_readMask? hn }
  exact ⟨net, rfl, Network.eq_toText_of_readMask? hunbroken hmask.1 hn⟩

/-- An address with a mask in any notation behind a slash. -/
theorem accepts_cidr (a : Network.Address) {length : String}
    (h : (Network.readMask? length).isSome = true) :
    ArgumentKind.cidr.accepts (a.toText ++ "/" ++ length) = true := by
  rw [ArgumentKind.accepts, Network.splitFirst?_address]
  simp only [a.ofText?_toText, h, Option.isSome_some, Bool.and_self]

/-- The words taken for a number are words indeed. -/
theorem isWord_of_number {token : String} (h : ArgumentKind.number.accepts token = true) :
    Text.IsWord token := by
  refine ⟨fun c hc => ?_, ne_empty_of_accepts (by decide) h⟩
  obtain ⟨n, hn⟩ := Option.isSome_iff_exists.mp h
  obtain ⟨m, hm, _⟩ := Option.map_eq_some_iff.mp hn
  rcases Text.isDigit_of_readBelow? hm c hc with hdigit | rfl
  · exact Text.not_blank_of_isDigit hdigit
  · decide

theorem accepts_number {n : Nat} (h : n < UInt32.size) :
    ArgumentKind.number.accepts (toString n) = true := by
  rw [ArgumentKind.accepts, Text.readUInt32?, Text.readBelow?_toString h]
  rfl

theorem accepts_vlan (v : UInt16) : ArgumentKind.number.accepts (toString v) = true :=
  accepts_number (Nat.lt_trans v.toNat_lt_size (by decide))

end TrainingLab.Grammar
