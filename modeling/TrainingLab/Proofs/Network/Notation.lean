import TrainingLab.Network.Cidr
import TrainingLab.Proofs.Text.Decimal
import TrainingLab.Proofs.Text.Words

/-
  Addresses, masks and prefixes are read back from the texts they are written as: an address from
  its octets, a mask from its dotted form and from its length, a network from its canonical prefix.
  An address has one text only, and so has a dotted mask; a length has many.

  Proved:
  * `ofText?_toText`, `eq_toText_of_ofText?`: addresses.
  * `maskLength?_eq_some_iff`: masks are ones followed by zeros.
  * `readMask?_eq_some_iff`: all notations of a mask, among them the dotted mask
    (`readMask?_maskOf`) and the length (`readMask?_toString`).
  * `readCidr?_mask`: the dotted mask may stand for any other notation.
  * `readPrefix?_toText`, `readNetwork?_mask`: networks.
-/

namespace TrainingLab

theorem Text.not_blank_of_isDigit {c : Char} (h : c.isDigit = true) : isBlank c = false := by
  have hrange : 48 ≤ c.toNat ∧ c.toNat ≤ 57 := by
    simpa [Char.isDigit, UInt32.le_iff_toNat_le] using h
  simp only [isBlank, Bool.or_eq_false_iff, Bool.and_eq_false_iff, beq_eq_false_iff_ne,
    decide_eq_false_iff_not]
  omega

theorem Text.unbroken_toString (n : Nat) : Unbroken (toString n) := by
  intro c hc
  rw [toList_toString] at hc
  exact not_blank_of_isDigit (isDigit_of_mem_toDigits hc)

theorem Text.toString_ne_empty (n : Nat) : toString n ≠ "" := by
  intro h
  have hchars := toList_toString n
  rw [h] at hchars
  exact absurd hchars.symm (by simp)

namespace Network

/-! ## Addresses -/

namespace Address

theorem toList_octet (n : UInt8) : (toString n).toList = Nat.toDigits 10 n.toNat :=
  Text.toList_toString n.toNat

/-- An octet is read back from its digits. -/
theorem readOctet?_toString (n : UInt8) : readOctet? (toString n).toList = some n := by
  have hall : ∀ m : Fin 256,
      readOctet? (Nat.toDigits 10 m.val) = some (UInt8.ofNat m.val) := by decide +kernel
  have hn := hall ⟨n.toNat, n.toNat_lt_size⟩
  rw [UInt8.ofNat_toNat] at hn
  rw [toList_octet]
  exact hn

theorem isDigit_of_mem_octet {n : UInt8} {c : Char} (h : c ∈ (toString n).toList) :
    c.isDigit = true := by
  rw [toList_octet] at h
  exact Text.isDigit_of_mem_toDigits h

theorem toList_toText (a : Address) :
    a.toText.toList = (toString a.first).toList ++ '.' :: ((toString a.second).toList ++
      '.' :: ((toString a.third).toList ++ '.' :: (toString a.fourth).toList)) := by
  simp [toText]

theorem mem_toText {a : Address} {c : Char} (h : c ∈ a.toText.toList) :
    c.isDigit = true ∨ c = '.' := by
  rw [toList_toText] at h
  simp only [List.mem_append, List.mem_cons] at h
  rcases h with h | rfl | h | rfl | h | rfl | h
  · exact Or.inl (isDigit_of_mem_octet h)
  · exact Or.inr rfl
  · exact Or.inl (isDigit_of_mem_octet h)
  · exact Or.inr rfl
  · exact Or.inl (isDigit_of_mem_octet h)
  · exact Or.inr rfl
  · exact Or.inl (isDigit_of_mem_octet h)

theorem unbroken_toText (a : Address) : Text.Unbroken a.toText := by
  intro c hc
  rcases mem_toText hc with h | rfl
  · exact Text.not_blank_of_isDigit h
  · decide

/-- An address is read back from its text. -/
theorem ofText?_toText (a : Address) : ofText? a.toText = some a := by
  have hone : ∀ n : UInt8, (toString n).toList.splitOn '.' = [(toString n).toList] := by
    intro n
    refine List.splitOnP_eq_singleton fun c hc => ?_
    have hdigit := isDigit_of_mem_octet hc
    rw [beq_eq_false_iff_ne]
    rintro rfl
    exact absurd hdigit (by decide)
  rw [ofText?, toList_toText, List.splitOn_append_cons_self, List.splitOn_append_cons_self,
    List.splitOn_append_cons_self, hone, hone, hone, hone]
  simp [readOctet?_toString]

/-- An octet is written as it was read. -/
theorem toList_of_readOctet? {cs : List Char} {n : UInt8} (h : readOctet? cs = some n) :
    (toString n).toList = cs := by
  unfold readOctet? at h
  split at h
  next => cases h
  next hshape =>
    obtain ⟨m, hm, rfl⟩ := Option.map_eq_some_iff.mp h
    obtain ⟨hread, hsmall⟩ := Option.filter_eq_some_iff.mp hm
    have hvalue : (UInt8.ofNat m).toNat = m := by
      rw [UInt8.toNat_ofNat', Nat.mod_eq_of_lt (of_decide_eq_true hsmall)]
    rw [toList_octet, hvalue]
    exact Text.toDigits_of_readDigits? hread fun hlong hhead => hshape (Or.inr ⟨hlong, hhead⟩)

theorem parts_of_readOctet? {parts : List (List Char)} {octets : List UInt8}
    (h : parts.mapM readOctet? = some octets) :
    parts = octets.map fun n => (toString n).toList := by
  induction parts generalizing octets with
  | nil =>
    cases h
    rfl
  | cons cs rest ih =>
    rw [List.mapM_cons] at h
    obtain ⟨n, hn, h⟩ := Option.bind_eq_some_iff.mp h
    obtain ⟨ns, hns, h⟩ := Option.bind_eq_some_iff.mp h
    cases h
    rw [List.map_cons, toList_of_readOctet? hn, ← ih hns]

/-- The text of an address is the only one. -/
theorem eq_toText_of_ofText? {s : String} {a : Address} (h : ofText? s = some a) :
    s = a.toText := by
  unfold ofText? at h
  split at h
  next w x y z hoctets =>
    obtain rfl := Option.some.inj h
    have hchars : ['.'].intercalate (s.toList.splitOn '.') = s.toList := List.intercalate_splitOn _
    rw [parts_of_readOctet? hoctets] at hchars
    rw [← String.toList_inj, ← hchars, toList_toText]
    simp [List.intercalate]
  next => cases h

/-- An address has a point. -/
theorem hasChar_toText (a : Address) : Text.hasChar '.' a.toText = true := by
  rw [Text.hasChar, toList_toText]
  simp

theorem toNat_ofNat {n : Nat} (h : n < UInt32.size) : (ofNat n).toNat = n := by
  simp only [toNat, ofNat, UInt8.toNat_ofNat']
  simp only [UInt32.size] at h
  omega

theorem toNat_inj {a b : Address} (h : a.toNat = b.toNat) : a = b := by
  obtain ⟨a1, a2, a3, a4⟩ := a
  obtain ⟨b1, b2, b3, b4⟩ := b
  simp only [toNat] at h
  have ha := And.intro a2.toNat_lt (And.intro a3.toNat_lt a4.toNat_lt)
  have hb := And.intro b2.toNat_lt (And.intro b3.toNat_lt b4.toNat_lt)
  simp only [mk.injEq, ← UInt8.toNat_inj]
  omega

theorem toNat_lt (a : Address) : a.toNat < UInt32.size := by
  have h1 := a.first.toNat_lt
  have h2 := a.second.toNat_lt
  have h3 := a.third.toNat_lt
  have h4 := a.fourth.toNat_lt
  simp only [toNat, UInt32.size]
  omega

end Address

/-! ## Masks -/

/-- The first `n` bits are ones, and the others are zeros. -/
def Address.IsMask (a : Address) (n : Nat) : Prop :=
  n ≤ 32 ∧ ∀ i : Fin 32, a.toNat.testBit (31 - i.val) = decide (i.val < n)

theorem Address.isMask_maskOf {n : Nat} (h : n ≤ 32) : (maskOf n).IsMask n := by
  have hbits : ∀ m : Fin 33, ∀ i : Fin 32,
      (maskOf m.val).toNat.testBit (31 - i.val) = decide (i.val < m.val) := by decide
  exact ⟨h, hbits ⟨n, Nat.lt_succ_of_le h⟩⟩

/-- There is one mask of each length. -/
theorem Address.IsMask.unique {a b : Address} {n : Nat} (ha : a.IsMask n) (hb : b.IsMask n) :
    a = b := by
  refine toNat_inj (Nat.eq_of_testBit_eq fun i => ?_)
  by_cases hi : i < 32
  · have hbit := (ha.2 ⟨31 - i, by omega⟩).trans (hb.2 ⟨31 - i, by omega⟩).symm
    rwa [show 31 - (31 - i) = i by omega] at hbit
  · have hhigh : ∀ c : Address, c.toNat.testBit i = false := fun c =>
      Nat.testBit_lt_two_pow (Nat.lt_of_lt_of_le c.toNat_lt
        (Nat.pow_le_pow_right Nat.two_pos (Nat.le_of_not_lt hi)))
    rw [hhigh a, hhigh b]

/-- Ones followed by zeros have a length, and nothing else has. -/
theorem maskLength?_eq_some_iff {a : Address} {n : Nat} :
    maskLength? a = some n ↔ a.IsMask n := by
  constructor
  · intro h
    have hn : n ∈ List.range 33 := List.mem_of_find?_eq_some h
    have hmask : maskOf n = a := by simpa using List.find?_some h
    exact hmask ▸ Address.isMask_maskOf (Nat.le_of_lt_succ (List.mem_range.mp hn))
  · intro h
    have hlengths : ∀ m : Fin 33, maskLength? (maskOf m.val) = some m.val := by decide
    rw [h.unique (Address.isMask_maskOf h.1)]
    exact hlengths ⟨n, Nat.lt_succ_of_le h.1⟩

/-- A notation of the mask of a length: the mask itself in dotted form, or the length as a number,
    with slashes in front of it or none. -/
inductive IsMaskNotation : List Char → Nat → Prop
  | dotted {mask : Address} {n : Nat} (h : mask.IsMask n) : IsMaskNotation mask.toText.toList n
  | length {number : List Char} {n : Nat} (slashes : Nat) (h : Text.WritesNumber number n)
      (hle : n ≤ 32) : IsMaskNotation (List.replicate slashes '/' ++ number) n

namespace IsMaskNotation

variable {cs : List Char} {n : Nat}

theorem le (h : IsMaskNotation cs n) : n ≤ 32 := by
  cases h with
  | dotted h => exact h.1
  | length _ _ hle => exact hle

theorem not_blank (h : IsMaskNotation cs n) : ∀ c ∈ cs, Text.isBlank c = false := by
  cases h with
  | dotted => exact Address.unbroken_toText _
  | length slashes h =>
    intro c hc
    rcases List.mem_append.mp hc with hc | hc
    · rw [List.eq_of_mem_replicate hc]
      decide
    · rcases Text.isDigit_of_writesNumber h c hc with hdigit | rfl
      · exact Text.not_blank_of_isDigit hdigit
      · decide

end IsMaskNotation

section Length

variable {number : List Char} {n : Nat}

theorem ne_of_mem_number (h : Text.WritesNumber number n) : ∀ c ∈ number, c ≠ '.' ∧ c ≠ '/' := by
  intro c hc
  rcases Text.isDigit_of_writesNumber h c hc with hdigit | rfl
  · refine ⟨?_, ?_⟩ <;>
    · rintro rfl
      exact absurd hdigit (by decide)
  · decide

/-- A length has no point, so it is not taken for a dotted mask. -/
theorem not_hasChar_length (slashes : Nat) (h : Text.WritesNumber number n) :
    ¬ Text.hasChar '.' (String.ofList (List.replicate slashes '/' ++ number)) = true := by
  rw [Text.hasChar, String.toList_ofList, List.contains_iff_mem, List.mem_append]
  rintro (hmem | hmem)
  · exact absurd (List.eq_of_mem_replicate hmem) (by decide)
  · exact (ne_of_mem_number h _ hmem).1 rfl

theorem dropWhile_slashes (slashes : Nat) (h : Text.WritesNumber number n) :
    (List.replicate slashes '/' ++ number).dropWhile (· == '/') = number := by
  rw [List.dropWhile_append_of_pos fun c hc => beq_iff_eq.mpr (List.eq_of_mem_replicate hc)]
  cases number with
  | nil => rfl
  | cons c cs =>
    refine List.dropWhile_cons_of_neg ?_
    simpa using (ne_of_mem_number h c List.mem_cons_self).2

end Length

/-- What is trimmed to a notation is read as the length. -/
theorem readMask?_of_trim {mask : String} {cs : List Char} {n : Nat}
    (htrim : Text.trim mask = String.ofList cs) (h : IsMaskNotation cs n) :
    readMask? mask = some n := by
  rw [readMask?, htrim]
  cases h with
  | dotted h =>
    rw [String.ofList_toList, if_pos (Address.hasChar_toText _), Address.ofText?_toText,
      Option.bind_some, maskLength?_eq_some_iff.mpr h]
  | length slashes h hle =>
    rw [if_neg (not_hasChar_length slashes h), String.toList_ofList, dropWhile_slashes slashes h,
      Text.readBelow?_eq_some_iff, String.toList_ofList]
    exact ⟨Nat.lt_succ_of_le hle, h⟩

/-- What is dropped in front are slashes. -/
theorem exists_slashes (cs : List Char) :
    ∃ slashes, cs = List.replicate slashes '/' ++ cs.dropWhile (· == '/') := by
  have hslashes : ∀ c ∈ cs.takeWhile (· == '/'), c = '/' := fun c hc =>
    beq_iff_eq.mp (List.all_eq_true.mp List.all_takeWhile c hc)
  refine ⟨(cs.takeWhile (· == '/')).length, ?_⟩
  rw [← List.eq_replicate_of_mem hslashes, List.takeWhile_append_dropWhile]

/-- What is read as a length is a notation of it once it is trimmed. -/
theorem isMaskNotation_of_readMask? {mask : String} {n : Nat} (h : readMask? mask = some n) :
    IsMaskNotation (Text.trim mask).toList n := by
  unfold readMask? at h
  dsimp only at h
  split at h
  next =>
    obtain ⟨a, ha, hlength⟩ := Option.bind_eq_some_iff.mp h
    rw [Address.eq_toText_of_ofText? ha]
    exact .dotted (maskLength?_eq_some_iff.mp hlength)
  next =>
    obtain ⟨hlt, hnumber⟩ := Text.readBelow?_eq_some_iff.mp h
    rw [String.toList_ofList] at hnumber
    obtain ⟨slashes, hslashes⟩ := exists_slashes (Text.trim mask).toList
    rw [hslashes]
    exact .length slashes hnumber (Nat.le_of_lt_succ hlt)

/-- A notation of the mask of a length, with white space around it or none. -/
def WritesMask (mask : String) (n : Nat) : Prop :=
  ∃ before body after, mask.toList = before ++ (body ++ after) ∧ Text.AllBlank before ∧
    Text.AllBlank after ∧ IsMaskNotation body n

/-- The texts that are read as the length of a mask are its notations. -/
theorem readMask?_eq_some_iff {mask : String} {n : Nat} :
    readMask? mask = some n ↔ WritesMask mask n := by
  constructor
  · intro h
    obtain ⟨before, after, hbefore, hafter, hmask⟩ := Text.exists_trim mask
    exact ⟨before, _, after, hmask, hbefore, hafter, isMaskNotation_of_readMask? h⟩
  · rintro ⟨before, body, after, hmask, hbefore, hafter, h⟩
    exact readMask?_of_trim (Text.trim_around hmask hbefore hafter (.of_not_blank h.not_blank)) h

example : readMask? "\t//+024 " = some 24 := by decide

theorem le_of_readMask? {mask : String} {n : Nat} (h : readMask? mask = some n) : n ≤ 32 :=
  (isMaskNotation_of_readMask? h).le

/-- A mask is read back from its dotted form, which has points. -/
theorem readMask?_maskOf {n : Nat} (h : n ≤ 32) :
    readMask? (maskOf n).toText = some n ∧ Text.hasChar '.' (maskOf n).toText = true := by
  refine ⟨readMask?_of_trim ?_ (.dotted (Address.isMask_maskOf h)), Address.hasChar_toText _⟩
  rw [Text.trim_of_unbroken (Address.unbroken_toText _), String.ofList_toList]

/-- A mask is read back from its length. -/
theorem readMask?_toString {n : Nat} (h : n ≤ 32) : readMask? (toString n) = some n := by
  refine readMask?_of_trim ?_ (.length 0 (Text.writesNumber_toString n) h)
  rw [Text.trim_of_unbroken (Text.unbroken_toString n), List.replicate_zero, List.nil_append,
    String.ofList_toList]

/-- A dotted mask that is read is written in the same way. -/
theorem eq_toText_of_readMask? {mask : String} (hunbroken : Text.Unbroken mask)
    (hpoint : Text.hasChar '.' mask = true) {n : Nat} (h : readMask? mask = some n) :
    mask = (maskOf n).toText := by
  rw [readMask?, Text.trim_of_unbroken hunbroken, if_pos hpoint] at h
  obtain ⟨a, ha, hn⟩ := Option.bind_eq_some_iff.mp h
  have hmask : maskOf n = a := by simpa using List.find?_some hn
  rw [Address.eq_toText_of_ofText? ha, hmask]

/-! ## Networks -/

theorem readCidr?_of_some {address mask : String} {net : Cidr}
    (h : readCidr? address mask = some net) :
    Address.ofText? address = some net.address ∧ readMask? mask = some net.length := by
  unfold readCidr? at h
  split at h
  next a n ha hn =>
    unfold Cidr.ofLength? at h
    split at h
    next =>
      cases h
      exact ⟨ha, hn⟩
    next => cases h
  next => cases h

theorem readCidr?_of_parts {address mask : String} {net : Cidr}
    (ha : Address.ofText? address = some net.address) (hn : readMask? mask = some net.length) :
    readCidr? address mask = some net := by
  simp only [readCidr?, ha, hn, Cidr.ofLength?, net.length_le, dif_pos]

/-- An address and a mask make a network. -/
theorem isSome_readCidr? {address mask : String} (ha : (Address.ofText? address).isSome = true)
    (hmask : (readMask? mask).isSome = true) : (readCidr? address mask).isSome = true := by
  obtain ⟨a, ha⟩ := Option.isSome_iff_exists.mp ha
  obtain ⟨n, hn⟩ := Option.isSome_iff_exists.mp hmask
  simp only [readCidr?, ha, hn, Cidr.ofLength?, le_of_readMask? hn, dif_pos, Option.isSome_some]

theorem network_network (c : Cidr) : c.network.network = c.network := by
  have hsize : 0 < networkSize c.length := by
    rw [networkSize, Nat.one_shiftLeft]
    exact Nat.two_pow_pos _
  have hsmall : c.address.toNat / networkSize c.length * networkSize c.length < UInt32.size :=
    Nat.lt_of_le_of_lt (Nat.div_mul_le_self _ _) c.address.toNat_lt
  simp only [Cidr.network, Address.toNat_ofNat hsmall, Nat.mul_div_cancel _ hsize]

/-- A network that is read is one: no bit of its host part is set. -/
theorem network_of_readNetwork? {address mask : String} {net : Cidr}
    (h : readNetwork? address mask = some net) : net.network = net := by
  obtain ⟨c, _, rfl⟩ := Option.map_eq_some_iff.mp h
  exact network_network c

theorem network_of_readPrefix? {s : String} {net : Cidr} (h : readPrefix? s = some net) :
    net.network = net := by
  unfold readPrefix? at h
  split at h
  next => exact network_of_readNetwork? h
  next => cases h

theorem readNetwork?_mask {net : Cidr} (h : net.network = net) :
    readNetwork? net.address.toText net.mask.toText = some net := by
  have hread : readCidr? net.address.toText net.mask.toText = some net :=
    readCidr?_of_parts net.address.ofText?_toText (readMask?_maskOf net.length_le).1
  rw [readNetwork?, hread, Option.map_some, h]

/-- No address has a slash. -/
theorem Address.slash_not_mem (a : Address) : ∀ c ∈ a.toText.toList, (c == '/') = false := by
  intro c hc
  rw [beq_eq_false_iff_ne]
  rintro rfl
  rcases Address.mem_toText hc with hdigit | hpoint
  · exact absurd hdigit (by decide)
  · exact absurd hpoint (by decide)

/-- The slash behind an address is the first one. -/
theorem splitFirst?_address (a : Address) (length : String) :
    Text.splitFirst? (· == '/') (a.toText ++ "/" ++ length) = some (a.toText, length) := by
  have hchars : (a.toText ++ "/" ++ length).toList = a.toText.toList ++ '/' :: length.toList := by
    simp
  rw [Text.splitFirst?, hchars, Text.cutFirst_append a.slash_not_mem (by decide), Option.map_some]
  simp only [String.ofList_toList]

/-- A network is read back from its prefix. -/
theorem readPrefix?_toText {net : Cidr} (h : net.network = net) :
    readPrefix? net.toText = some net := by
  have hsplit : Text.splitFirst? (· == '/') net.toText =
      some (net.address.toText, toString net.length) := splitFirst?_address net.address _
  have hread : readCidr? net.address.toText (toString net.length) = some net :=
    readCidr?_of_parts net.address.ofText?_toText (readMask?_toString net.length_le)
  rw [readPrefix?, hsplit]
  simp only [readNetwork?, hread, Option.map_some, h]

/-- The parts of a network in its prefix. -/
theorem networkAndMask_toText {net : Cidr} (h : net.network = net) :
    networkAndMask net.toText = (net.address.toText, net.mask.toText) := by
  rw [networkAndMask, readPrefix?_toText h]

end Network

end TrainingLab
