import TrainingLab.Proofs.Text.Case

/-
  Texts of ASCII. Each of their characters is one byte of UTF-8, and none gets longer or shorter in
  lower case. The other direction has one exception: the lower case of a character that is not in
  ASCII is not in ASCII either, but for the Kelvin sign. That is a `k` in lower case, three bytes
  before and one after.

  Proved:
  * `bytes_of_ascii`, `utf8ByteSize_of_ascii`: the bytes of a text of ASCII.
  * `ascii_or_kelvin`: which characters are in ASCII in lower case.
  * `utf8ByteSize_of_lower`: a text with a lower case in ASCII that has no `k` has as many bytes.
-/

namespace TrainingLab.Text

/-- Every character is in ASCII. -/
def IsAscii (cs : List Char) : Prop := ∀ c ∈ cs, c.toNat < 128

theorem isAscii_of_plain {cs : List Char} (h : ∀ c ∈ cs, isPlain c = true) : IsAscii cs := by
  intro c hc
  have hplain := h c hc
  rw [isPlain, Bool.and_eq_true, decide_eq_true_eq] at hplain
  exact hplain.1

/-! ## Bytes -/

/-- The bytes of UTF-8 of a text. -/
def bytes (s : String) : List UInt8 := s.toByteArray.data.toList

theorem length_bytes (s : String) : (bytes s).length = s.utf8ByteSize := rfl

theorem bytes_eq (s : String) : bytes s = s.toList.flatMap String.utf8EncodeChar := by
  rw [bytes, ← String.utf8Encode_toList, List.utf8Encode, List.toList_data_toByteArray]

theorem utf8EncodeChar_of_ascii {c : Char} (h : c.toNat < 128) :
    String.utf8EncodeChar c = [UInt8.ofNat c.toNat] :=
  if_pos (Nat.le_of_lt_succ h)

/-- In ASCII, a character is one byte. -/
theorem bytes_of_ascii {s : String} (h : IsAscii s.toList) :
    bytes s = s.toList.map fun c => UInt8.ofNat c.toNat := by
  rw [bytes_eq]
  generalize s.toList = cs at h
  induction cs with
  | nil => rfl
  | cons c rest ih =>
    obtain ⟨hc, hrest⟩ := List.forall_mem_cons.mp h
    rw [List.flatMap_cons, utf8EncodeChar_of_ascii hc, ih hrest]
    rfl

theorem utf8ByteSize_of_ascii {s : String} (h : IsAscii s.toList) : s.utf8ByteSize = s.length := by
  rw [← length_bytes, bytes_of_ascii h, List.length_map, String.length_toList]

/-- Characters of ASCII with the same byte are the same. -/
theorem eq_of_byte_eq {c e : Char} (hc : c.toNat < 128) (he : e.toNat < 128)
    (h : UInt8.ofNat c.toNat = UInt8.ofNat e.toNat) : c = e := by
  have hnat := congrArg UInt8.toNat h
  rw [UInt8.toNat_ofNat', UInt8.toNat_ofNat'] at hnat
  exact Char.toNat_inj.mp (by omega)

/-! ## Lower case -/

theorem image?_eq_some {runs : Runs} {n m : Nat} (h : runs.image? n = some m) :
    ∃ first last step image, (first, last, step, image) ∈ runs ∧ first ≤ n ∧ n ≤ last ∧
      m = image + (n - first) := by
  induction runs with
  | nil => cases h
  | cons run rest ih =>
    obtain ⟨first, last, step, image⟩ := run
    rw [Runs.image?] at h
    split at h
    next hin =>
      cases h
      exact ⟨first, last, step, image, List.mem_cons_self, hin.1, hin.2.1, rfl⟩
    next =>
      obtain ⟨first', last', step', image', hmem, hrun⟩ := ih h
      exact ⟨first', last', step', image', List.mem_cons_of_mem _ hmem, hrun⟩

/-- The Kelvin sign, a letter `K` of its own. -/
def kelvin : Char := '\u212A'

/-- The images of the runs are characters above ASCII, but for that of the Kelvin sign. -/
theorem lowerRuns_above : ∀ run ∈ lowerRuns,
    run.1 = kelvin.toNat ∧ run.2.1 = kelvin.toNat ∨
      128 ≤ run.2.2.2 ∧ (run.2.2.2 + (run.2.1 - run.1) < 0xD800 ∨
        0xDFFF < run.2.2.2 ∧ run.2.2.2 + (run.2.1 - run.1) < 0x110000) := by
  decide +kernel

/-- What the runs make of a character other than the Kelvin sign is a character above ASCII. -/
theorem above_of_image? {n m : Nat} (h : lowerRuns.image? n = some m) :
    n = kelvin.toNat ∨ 128 ≤ m ∧ m.isValidChar := by
  obtain ⟨first, last, step, image, hmem, hfirst, hlast, rfl⟩ := image?_eq_some h
  rcases lowerRuns_above _ hmem with ⟨h₁, h₂⟩ | ⟨habove, hvalid⟩
  · simp only at h₁ h₂
    exact Or.inl (by omega)
  · simp only at habove hvalid
    exact Or.inr ⟨by omega, by unfold Nat.isValidChar; omega⟩

theorem toNat_ofNat {n : Nat} (h : n.isValidChar) : (Char.ofNat n).toNat = n := by
  rw [Char.ofNat, dif_pos h]
  rfl

/-- Of the characters that are not in ASCII, only the Kelvin sign is in ASCII in lower case. -/
theorem ascii_or_kelvin {c : Char} (h : IsAscii (lowerChar c)) : c.toNat < 128 ∨ c = kelvin := by
  by_cases hc : c.toNat < 128
  · exact Or.inl hc
  refine Or.inr ?_
  rw [lowerChar, if_neg hc, caseImage] at h
  cases hexpansion : lowerExpansions.lookup c.toNat with
  | some image =>
    obtain ⟨before, after, heq, _⟩ := List.lookup_eq_some_iff.mp hexpansion
    have hmem : (c.toNat, image) ∈ lowerExpansions := by simp [heq]
    have himage : image = [0x69, 0x307] := (Prod.mk.inj (List.mem_singleton.mp hmem)).2
    rw [hexpansion, himage] at h
    exact absurd (h (Char.ofNat 0x307) (by simp)) (by decide)
  | none =>
    rw [hexpansion] at h
    cases hrun : lowerRuns.image? c.toNat with
    | none =>
      rw [hrun] at h
      exact absurd (h c (List.mem_singleton.mpr rfl)) hc
    | some n =>
      rw [hrun] at h
      have hascii := h (Char.ofNat n) (List.mem_singleton.mpr rfl)
      rcases above_of_image? hrun with hkelvin | ⟨habove, hvalid⟩
      · exact Char.toNat_inj.mp hkelvin
      · rw [toNat_ofNat hvalid] at hascii
        omega

/-- A character of ASCII is one character in lower case. -/
theorem lowerChar_of_ascii {c : Char} (h : c.toNat < 128) : lowerChar c = [c.toLower] := if_pos h

theorem kelvin_lower : lowerChar kelvin = ['k'] := by decide

theorem ascii_of_lowerFrom {before cs : List Char} (h : IsAscii (lowerFrom before cs))
    (hk : 'k' ∉ lowerFrom before cs) : IsAscii cs := by
  induction cs generalizing before with
  | nil => exact List.forall_mem_nil _
  | cons c rest ih =>
    rw [lowerFrom] at h hk
    have hrest := ih (fun x hx => h x (List.mem_append_right _ hx))
      (fun hx => hk (List.mem_append_right _ hx))
    refine List.forall_mem_cons.mpr ⟨?_, hrest⟩
    by_cases hsigma : c = 'Σ'
    · -- neither form of the small sigma is in ASCII
      exfalso
      rw [if_pos hsigma] at h
      have hsmall := h _ (List.mem_append_left _ (List.mem_singleton.mpr rfl))
      split at hsmall <;> exact absurd hsmall (by decide)
    · rw [if_neg hsigma] at h hk
      rcases ascii_or_kelvin fun x hx => h x (List.mem_append_left _ hx) with hc | rfl
      · exact hc
      · exact absurd (List.mem_append_left _ (by rw [kelvin_lower]; decide)) hk

theorem length_lowerFrom {before cs : List Char} (h : IsAscii cs) :
    (lowerFrom before cs).length = cs.length := by
  induction cs generalizing before with
  | nil => rfl
  | cons c rest ih =>
    obtain ⟨hc, hrest⟩ := List.forall_mem_cons.mp h
    have hsigma : c ≠ 'Σ' := by
      rintro rfl
      exact absurd hc (by decide)
    simp only [lowerFrom, if_neg hsigma, lowerChar_of_ascii hc, List.length_append, ih hrest,
      List.length_cons, List.length_nil]
    omega

/-- A text that is in ASCII in lower case, without a `k`, has as many bytes as in lower case. -/
theorem utf8ByteSize_of_lower {s : String} (h : IsAscii (lower s).toList)
    (hk : 'k' ∉ (lower s).toList) : s.utf8ByteSize = (lower s).length := by
  rw [lower, String.toList_ofList] at h hk
  have hs := ascii_of_lowerFrom h hk
  rw [utf8ByteSize_of_ascii hs, lower, String.length_ofList, length_lowerFrom hs,
    String.length_toList]

end TrainingLab.Text
