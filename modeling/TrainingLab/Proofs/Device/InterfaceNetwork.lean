import TrainingLab.Device.Interface
import TrainingLab.Proofs.Network.Notation

/-
  The network of an interface. The address and the mask are kept as they were written, and a mask
  may be written in many ways. What an interface shows of its network depends on the length of the
  mask, and not on how that is written. So one notation can stand for another, and what is shown
  can be stored in place of what was written.

  An interface without an address makes no network. It shows its mask as it was written, be it a
  notation of some length or not.

  Proved:
  * `isSome_net?_iff`: there is a network where there are an address and a length.
  * `alike_of_net?`: what is shown comes from the network.
  * `alike_setAddress`: masks of the same length under an address.
  * `setCidr_cidr`: what storing the shown prefix does to the texts.
  * `mask_notations_interchangeable`: notations of a mask, and what is shown, in place of each
    other.
-/

namespace TrainingLab.Interface

variable {i j : Interface} {net : Network.Cidr}

/-! ## What is shown of a network -/

theorem net?_eq_some_iff :
    i.net? = some net ↔ i.address? = some net.address ∧ i.prefixLength? = some net.length :=
  ⟨Network.readCidr?_of_some, fun h => Network.readCidr?_of_parts h.1 h.2⟩

/-- As no length is above 32, an address and a length make a network. -/
theorem isSome_net?_iff :
    i.net?.isSome = true ↔ i.address?.isSome = true ∧ i.prefixLength?.isSome = true := by
  refine ⟨fun h => ?_, fun h => Network.isSome_readCidr? h.1 h.2⟩
  obtain ⟨net, hnet⟩ := Option.isSome_iff_exists.mp h
  obtain ⟨haddress, hlength⟩ := net?_eq_some_iff.mp hnet
  rw [haddress, hlength]
  exact ⟨rfl, rfl⟩

theorem net?_of_no_address (h : i.address? = none) : i.net? = none := by
  have hnone : i.net?.isSome ≠ true := by
    rw [Ne, isSome_net?_iff, h]
    exact fun hsome => absurd hsome.1 (by decide)
  simpa using hnone

theorem cidr_of_net? (h : i.net? = some net) : i.cidr = net.toText := by
  rw [cidr, h]

theorem dottedMask_of_net? (h : i.net? = some net) : i.dottedMask = net.mask.toText := by
  rw [dottedMask, h]

theorem cidr_of_no_net (h : i.net? = none) : i.cidr = i.ip := by
  rw [cidr, h]

theorem dottedMask_of_no_net (h : i.net? = none) : i.dottedMask = i.mask := by
  rw [dottedMask, h]

/-- The two interfaces have the same network, if any, and show it in the same way. -/
structure Alike (i j : Interface) : Prop where
  net : i.net? = j.net?
  cidr : i.cidr = j.cidr
  dottedMask : i.dottedMask = j.dottedMask

theorem alike_of_net? (hi : i.net? = some net) (hj : j.net? = some net) : Alike i j where
  net := hi.trans hj.symm
  cidr := (cidr_of_net? hi).trans (cidr_of_net? hj).symm
  dottedMask := (dottedMask_of_net? hi).trans (dottedMask_of_net? hj).symm

/-! ## Storing texts -/

/-- Masks of the same length make the same network with an address. -/
theorem alike_setAddress {ip m₁ m₂ : String} {n : Nat}
    (hip : (Network.Address.ofText? ip).isSome = true) (h₁ : Network.readMask? m₁ = some n)
    (h₂ : Network.readMask? m₂ = some n) : Alike (i.setAddress ip m₁) (j.setAddress ip m₂) := by
  obtain ⟨a, ha⟩ := Option.isSome_iff_exists.mp hip
  let net : Network.Cidr :=
    { address := a, length := n, length_le := Network.le_of_readMask? h₁ }
  have hi : (i.setAddress ip m₁).net? = some net := net?_eq_some_iff.mpr ⟨ha, h₁⟩
  have hj : (j.setAddress ip m₂).net? = some net := net?_eq_some_iff.mpr ⟨ha, h₂⟩
  exact alike_of_net? hi hj

/-- The prefix that is shown has the address as it was written, as an address has one text only.
    Behind the slash is the length. -/
theorem setCidr_cidr (h : i.net? = some net) :
    i.setCidr i.cidr = i.setAddress i.ip (toString net.length) := by
  have hip : i.ip = net.address.toText :=
    Network.Address.eq_toText_of_ofText? (net?_eq_some_iff.mp h).1
  have hsplit : Text.splitFirst? (· == '/') i.cidr = some (i.ip, toString net.length) := by
    rw [cidr_of_net? h, Network.Cidr.toText, Network.splitFirst?_address, hip]
  rw [setCidr, hsplit]

theorem alike_setCidr_cidr (h : i.net? = some net) : Alike (i.setCidr i.cidr) i := by
  obtain ⟨haddress, hlength⟩ := net?_eq_some_iff.mp h
  rw [setCidr_cidr h]
  exact alike_setAddress (Option.isSome_of_eq_some haddress)
    (Network.readMask?_toString net.length_le) hlength

theorem alike_setAddress_dottedMask (h : i.net? = some net) :
    Alike (i.setAddress i.ip i.dottedMask) i := by
  obtain ⟨haddress, hlength⟩ := net?_eq_some_iff.mp h
  rw [dottedMask_of_net? h]
  exact alike_setAddress (Option.isSome_of_eq_some haddress)
    (Network.readMask?_maskOf net.length_le).1 hlength

/-- **Notations of a mask are interchangeable.** A text is read as a length, which is 32 at most, if
    it is one of the notations of that length: the mask of so many ones in dotted form, or the
    number behind slashes, a plus sign and zeros or without them, with white space around it or
    none. So an interface has a network exactly if it has an address and a length. Storing the
    prefix or the dotted mask that it shows then changes nothing of what it shows, and neither does
    any notation of a length in place of another one under an address. Without an address there is
    no network under any mask; the address is shown as it was written, and so is the mask. -/
theorem mask_notations_interchangeable (i : Interface) :
    (∀ mask n, Network.readMask? mask = some n ↔ Network.WritesMask mask n) ∧
      (∀ mask n, Network.readMask? mask = some n → n ≤ 32) ∧
      (i.net?.isSome = true ↔ i.address?.isSome = true ∧ i.prefixLength?.isSome = true) ∧
      (i.net?.isSome = true →
        Alike (i.setCidr i.cidr) i ∧ Alike (i.setAddress i.ip i.dottedMask) i) ∧
      (i.address?.isSome = true → ∀ m₁ m₂ n, Network.readMask? m₁ = some n →
        Network.readMask? m₂ = some n → Alike (i.setAddress i.ip m₁) (i.setAddress i.ip m₂)) ∧
      (i.address? = none → ∀ mask, (i.setAddress i.ip mask).net? = none ∧
        (i.setAddress i.ip mask).cidr = i.ip ∧ (i.setAddress i.ip mask).dottedMask = mask) := by
  refine ⟨fun _ _ => Network.readMask?_eq_some_iff, fun _ _ => Network.le_of_readMask?,
    isSome_net?_iff, fun h => ?_, fun h m₁ m₂ n => alike_setAddress h, fun h mask => ?_⟩
  · obtain ⟨net, hnet⟩ := Option.isSome_iff_exists.mp h
    exact ⟨alike_setCidr_cidr hnet, alike_setAddress_dottedMask hnet⟩
  · have hnone : (i.setAddress i.ip mask).net? = none := net?_of_no_address h
    exact ⟨hnone, cidr_of_no_net hnone, dottedMask_of_no_net hnone⟩

/-- A length behind a blank, two slashes, a plus sign and a zero gives way to what is shown, and to
    other notations. -/
theorem mask_notations_interchangeable_spelled :
    let i : Interface := { ip := "10.0.0.1", mask := " //+024" }
    i.net?.isSome = true ∧ i.cidr = "10.0.0.1/24" ∧ i.dottedMask = "255.255.255.0" ∧
      Alike (i.setCidr i.cidr) i ∧ Alike (i.setAddress i.ip i.dottedMask) i ∧
      Alike (i.setAddress i.ip "/24") (i.setAddress i.ip "255.255.255.0\t") := by
  intro i
  have hnet : i.net?.isSome = true := by decide
  obtain ⟨-, -, hparts, hshown, hnotations, -⟩ := mask_notations_interchangeable i
  exact ⟨hnet, by decide, by decide, (hshown hnet).1, (hshown hnet).2,
    hnotations (hparts.mp hnet).1 "/24" "255.255.255.0\t" 24 (by decide) (by decide)⟩

end TrainingLab.Interface
