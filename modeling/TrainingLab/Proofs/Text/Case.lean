import TrainingLab.Text.Case

/-
  Lower case loses no character: every character has at least one in lower case. Plain characters,
  those of ASCII that are no capitals, it leaves alone.
-/

namespace TrainingLab.Text

theorem caseImage_ne_nil {expansions : List (Nat × List Nat)} (h : ∀ e ∈ expansions, e.2 ≠ [])
    (runs : Runs) (c : Char) : caseImage expansions runs c ≠ [] := by
  unfold caseImage
  cases he : expansions.lookup c.toNat with
  | some image =>
    obtain ⟨before, after, rfl, _⟩ := List.lookup_eq_some_iff.mp he
    have := h (c.toNat, image) (by simp)
    simpa using this
  | none =>
    cases runs.image? c.toNat <;> simp

theorem lowerChar_ne_nil (c : Char) : lowerChar c ≠ [] := by
  unfold lowerChar
  split
  · simp
  · exact caseImage_ne_nil (by decide) _ _

theorem lowerFrom_eq_nil_iff {before cs : List Char} : lowerFrom before cs = [] ↔ cs = [] := by
  cases cs with
  | nil => simp [lowerFrom]
  | cons c rest =>
    have himage := lowerChar_ne_nil c
    simp only [lowerFrom]
    split <;> simp [himage]

/-- Only the empty text is empty in lower case. -/
theorem lower_eq_empty_iff {s : String} : lower s = "" ↔ s = "" := by
  rw [← String.toList_eq_nil_iff, ← String.toList_eq_nil_iff]
  simp [lower, lowerFrom_eq_nil_iff]

/-- A character of ASCII that is no capital letter. -/
def isPlain (c : Char) : Bool := decide (c.toNat < 128) && c.toLower == c

theorem lowerFrom_of_plain {before cs : List Char} (h : ∀ c ∈ cs, isPlain c = true) :
    lowerFrom before cs = cs := by
  induction cs generalizing before with
  | nil => rfl
  | cons c rest ih =>
    have hc := h c List.mem_cons_self
    rw [isPlain, Bool.and_eq_true, decide_eq_true_eq, beq_iff_eq] at hc
    have hsigma : c ≠ 'Σ' := by
      rintro rfl
      exact absurd hc.1 (by decide)
    simp only [lowerFrom, if_neg hsigma, lowerChar, if_pos hc.1, hc.2]
    rw [ih fun x hx => h x (List.mem_cons_of_mem c hx)]
    rfl

/-- A text of plain characters is in lower case. -/
theorem lower_of_plain {cs : List Char} (h : ∀ c ∈ cs, isPlain c = true) :
    lower (String.ofList cs) = String.ofList cs := by
  rw [lower, String.toList_ofList, lowerFrom_of_plain h]

end TrainingLab.Text
