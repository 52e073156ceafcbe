import TrainingLab.Text.Decimal

/-
  Numbers are read back from the digits they are written with, so different numbers are written
  differently.

  Proved:
  * `readBelow?_toString_eq`: for every bound.
  * `isDigit_of_readDigits?`: what is read is made of digits.
  * `toDigits_of_readDigits?`: digits without a leading zero are written again.
  * `readDigits?_eq_some_iff`, `readBelow?_eq_some_iff`: all that a number may be written as.
  * `readUInt16?_toString`, `readUInt32?_toString`, `readPosition?_toString`: for identifiers and
    positions.
  * `toString_uint32_inj`, `toString_nat_inj`: what is written alike is the same.
-/

namespace TrainingLab.Text

theorem digitsFrom_of_digits {cs : List Char} (h : ∀ c ∈ cs, c.isDigit = true) (n : Nat) :
    digitsFrom n cs = some (Nat.ofDigitChars 10 cs n) := by
  induction cs generalizing n with
  | nil => rfl
  | cons c cs ih =>
    obtain ⟨hc, hcs⟩ := List.forall_mem_cons.mp h
    rw [digitsFrom, if_pos hc, ih hcs, Nat.ofDigitChars_cons]

theorem isDigit_of_digitsFrom {cs : List Char} {n m : Nat} (h : digitsFrom n cs = some m) :
    ∀ c ∈ cs, c.isDigit = true := by
  induction cs generalizing n with
  | nil => exact List.forall_mem_nil _
  | cons c cs ih =>
    rw [digitsFrom] at h
    split at h
    next hc => exact List.forall_mem_cons.mpr ⟨hc, ih h⟩
    next => cases h

theorem isDigit_of_readDigits? {cs : List Char} {n : Nat} (h : readDigits? cs = some n) :
    ∀ c ∈ cs, c.isDigit = true := by
  unfold readDigits? at h
  split at h
  next => cases h
  next => exact isDigit_of_digitsFrom h

theorem isDigit_of_mem_toDigits {n : Nat} {c : Char} (h : c ∈ Nat.toDigits 10 n) :
    c.isDigit = true :=
  Nat.isDigit_of_mem_toDigits (by decide) (by decide) h

theorem toList_toString (n : Nat) : (toString n).toList = Nat.toDigits 10 n := by
  rw [Nat.toString_eq_ofList_toDigits, String.toList_ofList]

/-- A number is written on one line. -/
theorem feed_not_mem_toString (n : Nat) : '\n' ∉ (toString n).toList := by
  intro h
  rw [toList_toString] at h
  exact absurd (isDigit_of_mem_toDigits h) (by decide)

/-- A number of more than one digit has no zero in front. -/
theorem head?_toDigits {n : Nat} (h : 1 < (Nat.toDigits 10 n).length) :
    (Nat.toDigits 10 n).head? ≠ some '0' := by
  have hpositive : ∀ m, 0 < m → (Nat.toDigits 10 m).head? ≠ some '0' := by
    intro m
    induction m using Nat.strongRecOn with
    | _ m ih =>
      intro hm
      by_cases hlt : m < 10
      · have hdigit : ∀ d : Fin 10, 0 < d.val → d.val.digitChar ≠ '0' := by decide
        rw [Nat.toDigits_of_lt_base hlt]
        exact fun hhead => hdigit ⟨m, hlt⟩ hm (Option.some.inj hhead)
      · have hfirst := ih (m / 10) (by omega) (by omega)
        rw [Nat.toDigits_of_base_le (by decide) (by omega), List.head?_append]
        cases hhead : (Nat.toDigits 10 (m / 10)).head? with
        | none => exact absurd (List.head?_eq_none_iff.mp hhead) Nat.toDigits_ne_nil
        | some c =>
          rw [hhead] at hfirst
          exact hfirst
  refine hpositive n (Nat.pos_of_ne_zero fun hzero => ?_)
  rw [hzero] at h
  exact absurd h (by decide)

theorem readDigits?_toDigits (n : Nat) : readDigits? (Nat.toDigits 10 n) = some n := by
  have hne : (Nat.toDigits 10 n).isEmpty = false := by simp
  rw [readDigits?, hne, if_neg (by decide),
    digitsFrom_of_digits (fun c hc => isDigit_of_mem_toDigits hc) 0, Nat.ofDigitChars_ten_toDigits]

/-- A digit stands for a number below ten, which is written with it. -/
theorem lt_ten_and_toDigits_of_isDigit {c : Char} (h : c.isDigit = true) :
    c.toNat - '0'.toNat < 10 ∧ Nat.toDigits 10 (c.toNat - '0'.toNat) = [c] := by
  have hrange : '0'.toNat ≤ c.toNat ∧ c.toNat < '0'.toNat + 10 := by
    simpa [Char.isDigit, UInt32.le_iff_toNat_le, Nat.lt_succ_iff] using h
  have hlt : c.toNat - '0'.toNat < 10 := Nat.sub_lt_left_of_lt_add hrange.1 hrange.2
  have hall : ∀ d : Fin 10, d.val.digitChar = Char.ofNat ('0'.toNat + d) := by decide
  have hdigit : (c.toNat - '0'.toNat).digitChar = c := by
    have hsum : '0'.toNat + (c.toNat - '0'.toNat) = c.toNat := Nat.add_sub_cancel' hrange.1
    rw [hall ⟨_, hlt⟩, hsum, Char.ofNat_toNat]
  exact ⟨hlt, by rw [Nat.toDigits_of_lt_base hlt, hdigit]⟩

/-- Digits behind a number are written behind it, unless the number is zero. -/
theorem toDigits_ofDigitChars {cs : List Char} (h : ∀ c ∈ cs, c.isDigit = true) {n : Nat}
    (hn : 0 < n) : Nat.toDigits 10 (Nat.ofDigitChars 10 cs n) = Nat.toDigits 10 n ++ cs := by
  induction cs generalizing n with
  | nil => rw [Nat.ofDigitChars_nil, List.append_nil]
  | cons c cs ih =>
    obtain ⟨hc, hcs⟩ := List.forall_mem_cons.mp h
    obtain ⟨hlt, hdigit⟩ := lt_ten_and_toDigits_of_isDigit hc
    rw [Nat.ofDigitChars_cons, ih hcs (by omega),
      ← Nat.toDigits_append_toDigits (by decide) hn hlt, hdigit, List.append_assoc,
      List.singleton_append]

/-- Digits without a leading zero are what the number that they are read as is written with. -/
theorem toDigits_of_readDigits? {cs : List Char} {n : Nat} (h : readDigits? cs = some n)
    (hzero : 1 < cs.length → cs.head? ≠ some '0') : Nat.toDigits 10 n = cs := by
  have hdigits := isDigit_of_readDigits? h
  cases cs with
  | nil => cases h
  | cons c rest =>
    obtain ⟨hc, hrest⟩ := List.forall_mem_cons.mp hdigits
    have hread : some (Nat.ofDigitChars 10 (c :: rest) 0) = some n :=
      (digitsFrom_of_digits hdigits 0).symm.trans h
    obtain rfl := Option.some.inj hread
    obtain ⟨_, hdigit⟩ := lt_ten_and_toDigits_of_isDigit hc
    rw [Nat.ofDigitChars_cons, Nat.mul_zero, Nat.zero_add]
    cases rest with
    | nil => exact hdigit
    | cons next rest =>
      have hpositive : 0 < c.toNat - '0'.toNat := by
        refine Nat.pos_of_ne_zero fun hval => hzero (by simp) ?_
        rw [hval] at hdigit
        exact congrArg List.head? hdigit.symm
      rw [toDigits_ofDigitChars hrest hpositive, hdigit, List.singleton_append]

/-- A number is read back from its digits if it is below the bound. -/
theorem readBelow?_toString_eq (bound n : Nat) :
    readBelow? bound (toString n) = (some n).filter fun n => decide (n < bound) := by
  have hsign : ∀ cs, Nat.toDigits 10 n ≠ '+' :: cs := by
    intro cs hcs
    have : '+' ∈ Nat.toDigits 10 n := by simp [hcs]
    exact absurd (isDigit_of_mem_toDigits this) (by decide)
  rw [readBelow?, toList_toString]
  split
  next cs hcs => exact absurd hcs (hsign cs)
  next => rw [readDigits?_toDigits]

theorem readBelow?_toString {bound n : Nat} (h : n < bound) :
    readBelow? bound (toString n) = some n :=
  (readBelow?_toString_eq bound n).trans (Option.filter_eq_some_iff.mpr ⟨rfl, decide_eq_true h⟩)

/-- The digits of a number, with zeros in front of them or none. -/
def ZeroPadded (cs : List Char) (n : Nat) : Prop :=
  ∃ zeros, cs = List.replicate zeros '0' ++ Nat.toDigits 10 n

theorem readDigits?_zero {cs : List Char} (hne : cs ≠ []) :
    readDigits? ('0' :: cs) = readDigits? cs := by
  have hempty : cs.isEmpty = false := by simpa using hne
  rw [readDigits?, readDigits?, hempty]
  rfl

theorem readDigits?_padded (zeros n : Nat) :
    readDigits? (List.replicate zeros '0' ++ Nat.toDigits 10 n) = some n := by
  induction zeros with
  | zero => exact readDigits?_toDigits n
  | succ zeros ih =>
    have hne : List.replicate zeros '0' ++ Nat.toDigits 10 n ≠ [] := by simp
    rw [List.replicate_succ, List.cons_append, readDigits?_zero hne, ih]

theorem zeroPadded_of_readDigits? {cs : List Char} {n : Nat} (h : readDigits? cs = some n) :
    ZeroPadded cs n := by
  induction cs with
  | nil => cases h
  | cons c cs ih =>
    -- a zero in front is padding, unless it is the number itself
    by_cases hlead : c = '0' ∧ cs ≠ []
    · obtain ⟨rfl, hne⟩ := hlead
      obtain ⟨zeros, hcs⟩ := ih (readDigits?_zero hne ▸ h)
      exact ⟨zeros + 1, by rw [List.replicate_succ, List.cons_append, ← hcs]⟩
    · refine ⟨0, (toDigits_of_readDigits? h fun hlong hhead => hlead ?_).symm⟩
      exact ⟨Option.some.inj hhead, fun hnil => by simp [hnil] at hlong⟩

/-- The characters are read as the number exactly if they are its digits with zeros in front. -/
theorem readDigits?_eq_some_iff {cs : List Char} {n : Nat} :
    readDigits? cs = some n ↔ ZeroPadded cs n := by
  refine ⟨zeroPadded_of_readDigits?, ?_⟩
  rintro ⟨zeros, rfl⟩
  exact readDigits?_padded zeros n

theorem isDigit_of_zeroPadded {cs : List Char} {n : Nat} (h : ZeroPadded cs n) :
    ∀ c ∈ cs, c.isDigit = true := isDigit_of_readDigits? (readDigits?_eq_some_iff.mpr h)

/-- A number in digits, with zeros in front of them or none, and with a plus sign or none. -/
def WritesNumber (cs : List Char) (n : Nat) : Prop :=
  ∃ sign digits, cs = sign ++ digits ∧ (sign = [] ∨ sign = ['+']) ∧ ZeroPadded digits n

theorem writesNumber_toString (n : Nat) : WritesNumber (toString n).toList n :=
  ⟨[], _, rfl, .inl rfl, 0, toList_toString n⟩

theorem isDigit_of_writesNumber {cs : List Char} {n : Nat} (h : WritesNumber cs n) :
    ∀ c ∈ cs, c.isDigit = true ∨ c = '+' := by
  obtain ⟨sign, digits, rfl, hsign, hdigits⟩ := h
  intro c hc
  rcases List.mem_append.mp hc with hc | hc
  · rcases hsign with rfl | rfl
    · cases hc
    · exact .inr (List.mem_singleton.mp hc)
  · exact .inl (isDigit_of_zeroPadded hdigits c hc)

/-- A text is read as a number below the bound exactly if it writes that number. -/
theorem readBelow?_eq_some_iff {bound n : Nat} {s : String} :
    readBelow? bound s = some n ↔ n < bound ∧ WritesNumber s.toList n := by
  rw [readBelow?, Option.filter_eq_some_iff, decide_eq_true_iff, and_comm]
  refine and_congr_right fun _ => ?_
  split
  next cs hcs =>
    rw [hcs, readDigits?_eq_some_iff]
    refine ⟨fun h => ⟨['+'], cs, rfl, .inr rfl, h⟩, ?_⟩
    rintro ⟨sign, digits, hsplit, rfl | rfl, h⟩
    · have hplus : '+' ∈ digits := by
        rw [← List.nil_append digits, ← hsplit]
        exact List.mem_cons_self
      exact absurd (isDigit_of_zeroPadded h _ hplus) (by decide)
    · rw [(List.cons.inj hsplit).2]
      exact h
  next cs hplus =>
    rw [readDigits?_eq_some_iff]
    refine ⟨fun h => ⟨[], s.toList, rfl, .inl rfl, h⟩, ?_⟩
    rintro ⟨sign, digits, hsplit, rfl | rfl, h⟩
    · rw [hsplit]
      exact h
    · exact absurd hsplit (hplus digits)

/-- A number is written with digits, and may have a plus sign. -/
theorem isDigit_of_readBelow? {bound n : Nat} {s : String} (h : readBelow? bound s = some n) :
    ∀ c ∈ s.toList, c.isDigit = true ∨ c = '+' :=
  isDigit_of_writesNumber (readBelow?_eq_some_iff.mp h).2

theorem readUInt16?_toString (n : UInt16) : readUInt16? (toString n) = some n := by
  have hread : readBelow? UInt16.size (toString n) = some n.toNat :=
    readBelow?_toString n.toNat_lt_size
  rw [readUInt16?, hread, Option.map_some, UInt16.ofNat_toNat]

theorem readUInt32?_toString (n : UInt32) : readUInt32? (toString n) = some n := by
  have hread : readBelow? UInt32.size (toString n) = some n.toNat :=
    readBelow?_toString n.toNat_lt_size
  rw [readUInt32?, hread, Option.map_some, UInt32.ofNat_toNat]

theorem readPosition?_toString {n : Nat} (h : n < UInt64.size) :
    readPosition? (toString n) = some n :=
  readBelow?_toString h

/-- Identifiers that are written alike are the same. -/
theorem toString_uint32_inj {m n : UInt32} : toString m = toString n ↔ m = n := by
  refine ⟨fun h => ?_, fun h => congrArg toString h⟩
  have hread := congrArg readUInt32? h
  rw [readUInt32?_toString, readUInt32?_toString] at hread
  exact Option.some.inj hread

/-- Numbers that are written alike are the same. -/
theorem toString_nat_inj {m n : Nat} : toString m = toString n ↔ m = n := by
  refine ⟨fun h => ?_, fun h => congrArg toString h⟩
  have hread := congrArg (readBelow? (max m n + 1)) h
  rw [readBelow?_toString (by omega), readBelow?_toString (by omega)] at hread
  exact Option.some.inj hread

end TrainingLab.Text
