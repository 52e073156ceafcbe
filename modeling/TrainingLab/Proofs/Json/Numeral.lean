import TrainingLab.Json.Printer
import TrainingLab.Json.Token
import TrainingLab.Proofs.Text.Decimal

/-
  Numbers are read as they are printed, if 64 bits hold their digits. What is read is of this kind,
  for the reader keeps no more digits than 64 bits hold.

  Proved:
  * `wordToken?_numeralText`: a number is read from its text.
  * `held_of_numeral?`: what is read can be printed and read again.
-/

namespace TrainingLab

/-- 64 bits hold the digits, and the number is one that JSON has a form for. -/
def Numeral.Held : Numeral → Prop
  | integer n => n.natAbs < UInt64.size
  | decimal _ digits _ => digits < UInt64.size
  | infinite _ => False
  | undefined => False

namespace Json

open Text

/-! ## Digits -/

theorem digitsValue_toDigits (n : Nat) : digitsValue (Nat.toDigits 10 n) = n :=
  Nat.ofDigitChars_ten_toDigits

theorem le_ofDigitChars (cs : List Char) (n : Nat) : n ≤ Nat.ofDigitChars 10 cs n := by
  induction cs generalizing n with
  | nil => exact Nat.le_refl n
  | cons c cs ih =>
    rw [Nat.ofDigitChars_cons]
    have := ih (10 * n + (c.toNat - '0'.toNat))
    omega

theorem significandFrom_of_lt {cs : List Char} {n : Nat}
    (h : Nat.ofDigitChars 10 cs n < UInt64.size) :
    significandFrom n cs = (Nat.ofDigitChars 10 cs n, 0) := by
  induction cs generalizing n with
  | nil => rfl
  | cons c cs ih =>
    rw [Nat.ofDigitChars_cons] at h ⊢
    have hnext := Nat.lt_of_le_of_lt (le_ofDigitChars cs _) h
    rw [significandFrom]
    simp only [if_pos hnext]
    exact ih h

/-- No digit goes on in the text. -/
def EndsDigits (cs : List Char) : Prop := ∀ c, cs.head? = some c → c.isDigit = false

/-- Digits end where something else follows. -/
theorem takeDigits?_toDigits (n : Nat) {rest : List Char} (hrest : EndsDigits rest) :
    takeDigits? (Nat.toDigits 10 n ++ rest) = some (Nat.toDigits 10 n, rest) := by
  have hdigits : ∀ c ∈ Nat.toDigits 10 n, c.isDigit = true := fun _ hc =>
    isDigit_of_mem_toDigits hc
  have htake : (Nat.toDigits 10 n ++ rest).takeWhile Char.isDigit = Nat.toDigits 10 n := by
    rw [List.takeWhile_append_of_pos hdigits]
    cases rest with
    | nil => rw [List.takeWhile_nil, List.append_nil]
    | cons c rest =>
      rw [List.takeWhile_cons_of_neg (by rw [hrest c rfl]; decide), List.append_nil]
  have hdrop : (Nat.toDigits 10 n ++ rest).dropWhile Char.isDigit = rest := by
    rw [List.dropWhile_append_of_pos hdigits]
    cases rest with
    | nil => rfl
    | cons c rest => rw [List.dropWhile_cons_of_neg (by rw [hrest c rfl]; decide)]
  have hne : (Nat.toDigits 10 n).isEmpty = false := by simp
  rw [takeDigits?, htake, hdrop, hne, if_neg Bool.false_ne_true]

/-! ## Signs -/

/-- The characters behind a minus, if there is one. -/
def signed (negative : Bool) (cs : List Char) : List Char := if negative then '-' :: cs else cs

theorem toList_toString_int (n : Int) :
    (toString n).toList = signed (decide (n < 0)) (Nat.toDigits 10 n.natAbs) := by
  cases n with
  | ofNat m =>
    have hsign : decide (Int.ofNat m < 0) = false := decide_eq_false (by simp)
    rw [hsign]
    exact toList_toString m
  | negSucc m =>
    have hsign : decide (Int.negSucc m < 0) = true := decide_eq_true (by simp)
    have htext : toString (Int.negSucc m) = "-" ++ toString (m + 1) := rfl
    rw [hsign, htext, String.toList_append, toList_toString]
    rfl

/-- Digits have no sign in front. -/
theorem isDigit_of_toDigits_append {n : Nat} {rest cs : List Char} {c : Char}
    (h : Nat.toDigits 10 n ++ rest = c :: cs) : c.isDigit = true := by
  cases hdigits : Nat.toDigits 10 n with
  | nil => exact absurd hdigits Nat.toDigits_ne_nil
  | cons d ds =>
    rw [hdigits] at h
    have hd : d ∈ Nat.toDigits 10 n := hdigits ▸ List.mem_cons_self
    rw [← (List.cons.inj h).1]
    exact isDigit_of_mem_toDigits hd

theorem takeExponent?_toString (n : Int) :
    takeExponent? ('e' :: (toString n).toList) = some (some n) := by
  have hdigits : takeDigits? (Nat.toDigits 10 n.natAbs ++ []) = some (_, []) :=
    takeDigits?_toDigits n.natAbs nofun
  rw [toList_toString_int, ← List.append_nil (Nat.toDigits 10 n.natAbs)]
  by_cases hsign : n < 0
  · have hvalue : -(n.natAbs : Int) = n := by omega
    rw [decide_eq_true hsign, signed, if_pos rfl]
    simp only [takeExponent?, true_or, if_true, hdigits, digitsValue_toDigits, hvalue]
  · have hvalue : (n.natAbs : Int) = n := by omega
    rw [decide_eq_false hsign, signed, if_neg Bool.false_ne_true]
    have hplain : ∀ c, c.isDigit = false → ∀ cs, Nat.toDigits 10 n.natAbs ++ [] ≠ c :: cs := by
      intro c hc cs hcs
      rw [isDigit_of_toDigits_append hcs] at hc
      cases hc
    rw [takeExponent?, if_pos (Or.inl rfl)]
    · simp only [hdigits, digitsValue_toDigits, hvalue]
      rfl
    · exact hplain '-' rfl
    · exact hplain '+' rfl

theorem numeral?_signed {negative : Bool} {m : Nat} (hm : m < UInt64.size) {rest : List Char}
    {exponent : Option Int} (hdigit : EndsDigits rest)
    (hfraction : takeFraction? rest = some ([], rest))
    (hexponent : takeExponent? rest = some exponent) :
    numeral? (signed negative (Nat.toDigits 10 m ++ rest)) = some
      (if exponent.isNone && !(negative && m == 0) then .integer (if negative then -m else m)
      else .decimal negative m (exponent.getD 0)) := by
  have hsignificand : significandFrom 0 (Nat.toDigits 10 m) = (m, 0) := by
    have hvalue : Nat.ofDigitChars 10 (Nat.toDigits 10 m) 0 = m := Nat.ofDigitChars_ten_toDigits
    rw [significandFrom_of_lt (by rw [hvalue]; exact hm), hvalue]
  have hzero : ¬ ((Nat.toDigits 10 m).length > 1 ∧ (Nat.toDigits 10 m).head? = some '0') :=
    fun h => head?_toDigits h.1 h.2
  have hdigits := takeDigits?_toDigits m hdigit
  unfold numeral?
  split
  next negative' cs heq =>
    obtain ⟨rfl, rfl⟩ : negative' = negative ∧ cs = Nat.toDigits 10 m ++ rest := by
      cases negative with
      | true =>
        cases heq
        exact ⟨rfl, rfl⟩
      | false =>
        rw [signed, if_neg Bool.false_ne_true] at heq
        split at heq
        next hcs => exact absurd (isDigit_of_toDigits_append hcs) (by decide)
        next =>
          cases heq
          exact ⟨rfl, rfl⟩
    simp only [hdigits, if_neg hzero, hfraction, hexponent, hsignificand]
    have hnothing : significandFrom m [] = (m, 0) := rfl
    rw [apply_ite some, hnothing]
    simp

/-! ## Numbers -/

theorem numeral?_numeralText {n : Numeral} (h : n.Held) :
    numeral? (numeralText n).toList = some n := by
  cases n with
  | integer i =>
    have hread : numeral? (signed (decide (i < 0)) (Nat.toDigits 10 i.natAbs ++ [])) = _ :=
      numeral?_signed h nofun rfl rfl
    have hinteger : (if decide (i < 0) = true then -(i.natAbs : Int) else i.natAbs) = i := by
      split
      next hneg => have := of_decide_eq_true hneg; omega
      next hpos => have := of_decide_eq_false (Bool.eq_false_iff.mpr hpos); omega
    have hsign : (!(decide (i < 0) && i.natAbs == 0)) = true := by
      by_cases hi : i < 0
      · have hne : i.natAbs ≠ 0 := by omega
        simp [hne]
      · simp [hi]
    rw [numeralText, toList_toString_int, ← List.append_nil (Nat.toDigits 10 i.natAbs), hread,
      hsign, hinteger]
    rfl
  | decimal negative digits exponent =>
    have hends : EndsDigits ('e' :: (toString exponent).toList) := fun c hc => by cases hc; rfl
    have hread : numeral?
        (signed negative (Nat.toDigits 10 digits ++ 'e' :: (toString exponent).toList)) = _ :=
      numeral?_signed h hends rfl (takeExponent?_toString exponent)
    have htext : (numeralText (.decimal negative digits exponent)).toList =
        signed negative (Nat.toDigits 10 digits ++ 'e' :: (toString exponent).toList) := by
      simp only [numeralText, String.toList_append, toList_toString, signed]
      cases negative <;> simp
    rw [htext, hread]
    rfl
  | infinite _ => exact h.elim
  | undefined => exact h.elim

theorem wordToken?_of_numeral? {cs : List Char} {n : Numeral} (h : numeral? cs = some n) :
    wordToken? cs = some (.number n) := by
  have hne : ∀ word, numeral? word = none → cs ≠ word := by
    intro word hword heq
    rw [heq, hword] at h
    cases h
  rw [wordToken?, if_neg (hne _ rfl), if_neg (hne _ rfl), if_neg (hne _ rfl), h]
  rfl

theorem isWordChar_toDigits {n : Nat} : ∀ c ∈ Nat.toDigits 10 n, isWordChar c = true := by
  intro c hc
  have hdigit := isDigit_of_mem_toDigits hc
  simp [isWordChar, Char.isAlphanum, hdigit]

theorem isWordChar_signed {negative : Bool} {cs : List Char}
    (h : ∀ c ∈ cs, isWordChar c = true) : ∀ c ∈ signed negative cs, isWordChar c = true := by
  cases negative with
  | true => exact List.forall_mem_cons.mpr ⟨rfl, h⟩
  | false => exact h

/-- A number is written as one word. -/
theorem isWordChar_numeralText {n : Numeral} (h : n.Held) :
    ∀ c ∈ (numeralText n).toList, isWordChar c = true := by
  cases n with
  | integer i =>
    rw [numeralText, toList_toString_int]
    exact isWordChar_signed isWordChar_toDigits
  | decimal negative digits exponent =>
    have hexponent : ∀ c ∈ (toString exponent).toList, isWordChar c = true := by
      rw [toList_toString_int]
      exact isWordChar_signed isWordChar_toDigits
    intro c hc
    simp only [numeralText, String.toList_append, toList_toString, List.mem_append] at hc
    rcases hc with ((hc | hc) | hc) | hc
    · cases negative with
      | true => rw [List.mem_singleton.mp hc]; rfl
      | false => cases hc
    · exact isWordChar_toDigits c hc
    · rw [List.mem_singleton.mp hc]; rfl
    · exact hexponent c hc
  | infinite _ => exact h.elim
  | undefined => exact h.elim

/-! ## What is read -/

theorem significandFrom_lt {n : Nat} (h : n < UInt64.size) (cs : List Char) :
    (significandFrom n cs).1 < UInt64.size := by
  induction cs generalizing n with
  | nil => exact h
  | cons c cs ih =>
    rw [significandFrom]
    split
    next hnext => exact ih hnext
    next => exact h

/-- 64 bits hold the digits of every number that is read. -/
theorem held_of_numeral? {cs : List Char} {n : Numeral} (h : numeral? cs = some n) : n.Held := by
  have hwhole : ∀ whole, (significandFrom 0 whole).1 < UInt64.size :=
    significandFrom_lt (by decide)
  unfold numeral? at h
  split at h
  next negative _ _ =>
  split at h
  next => cases h
  next whole _ _ =>
  split at h
  next => cases h
  split at h
  next => cases h
  next fraction _ _ =>
  split at h
  next => cases h
  have hn := hwhole whole
  split at h
  next n beyond hpair =>
  rw [hpair] at hn
  split at h
  next =>
    cases h
    cases negative with
    | true => exact lt_of_eq_of_lt (Int.natAbs_neg n) hn
    | false => exact hn
  next =>
    have hn' := significandFrom_lt hn fraction
    cases h
    exact hn'

end Json

end TrainingLab
