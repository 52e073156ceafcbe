import TrainingLab.Dialect.Basic
import TrainingLab.Proofs.Device.Views
import TrainingLab.Proofs.Grammar.Dispatch
import TrainingLab.Proofs.Text.Words

/-
  The console in two steps: what the table makes of a line, and what the device then does. Blank
  lines and questions for help never get to the table; they print.
-/

namespace TrainingLab.Dialect

open Grammar

variable {κ : Type}

/-- What the table makes of a line, if the line gets there. -/
def verdict? (l : Dialect κ) (line : String) (d : Device) : Option (Verdict (Request κ)) :=
  let tokens := Text.words (Text.trim line)
  if Text.trim line = "" ∨ tokens = ["?"] ∨ tokens = ["help"] then none
  else some (dispatch d.mode d.context tokens l.table)

theorem dispatch_of_verdict? {l : Dialect κ} {line : String} {d : Device}
    {v : Verdict (Request κ)} (h : l.verdict? line d = some v) :
    dispatch d.mode d.context (Text.words (Text.trim line)) l.table = v := by
  unfold verdict? at h
  dsimp only at h
  split at h
  next => cases h
  next => exact Option.some.inj h

/-- A line with words other than a question for help gets to the table. -/
theorem verdict?_of_words (l : Dialect κ) {line : String} (d : Device) {token : String}
    {rest : List String} (h : Text.words line = token :: rest) (hmark : token ≠ "?")
    (hhelp : token ≠ "help") :
    l.verdict? line d = some (dispatch d.mode d.context (token :: rest) l.table) := by
  have hwords : Text.words (Text.trim line) = token :: rest := (Text.words_trim line).trans h
  have hblank : Text.trim line ≠ "" := by
    intro hempty
    rw [hempty] at hwords
    cases hwords
  unfold verdict?
  rw [hwords, if_neg (by simp [hblank, hmark, hhelp])]

/-- What the rules say of the commands that they stand for holds of the command of a line. -/
theorem command_of_done {rules : List (Rule (Request κ))} {Q : κ → Prop} {mode : Mode}
    {context : List Frame} {tokens : List String}
    (hrules : ∀ r ∈ rules, ∀ caps, r.pattern.matches tokens = .full caps →
      (∃ line, r.meaning caps = .carried line) ∨ ∃ c, r.meaning caps = .command c ∧ Q c)
    {c : κ} (h : dispatch mode context tokens rules = .done (.command c)) : Q c := by
  obtain ⟨r, caps, hr, hfull, hc⟩ := dispatch_done_iff.mp h
  rcases hrules r (List.mem_of_find?_eq_some hr) caps hfull with ⟨line, hline⟩ | ⟨c', hc', hholds⟩
  · rw [hline] at hc
    cases hc
  · rw [hc'] at hc
    cases hc
    exact hholds

/-- What the device does about a verdict. -/
def act (l : Dialect κ) (devices : Inventory) (v : Verdict (Request κ)) (d : Device) : Device :=
  match v with
  | .done (.command c) => l.run devices c d
  | .done (.carried line) => l.runCarried devices line d
  | .incomplete => d.log l.incomplete
  | .unknown => d.log (l.unknown d.mode)

/-- The line behind the prompt. -/
def echo (line : String) (d : Device) : Device := d.log (d.prompt ++ " " ++ Text.trim line)

/-- A line that does not get to the table prints something. -/
theorem interpret_of_none {l : Dialect κ} {line : String} {d : Device}
    (h : l.verdict? line d = none) (help : List String) (devices : Inventory) :
    ∃ texts, l.interpret help devices line d = d.logAll texts := by
  unfold verdict? at h
  unfold interpret
  by_cases hblank : Text.trim line = ""
  · exact ⟨[d.prompt], by simp [hblank, Device.logAll]⟩
  · by_cases hhelp : Text.words (Text.trim line) = ["?"] ∨ Text.words (Text.trim line) = ["help"]
    · refine ⟨(d.prompt ++ " " ++ Text.trim line) :: help, ?_⟩
      simp [hblank, hhelp, Device.logAll]
    · simp [hblank, hhelp] at h

/-- Any other line is echoed, and then the verdict on it is carried out. -/
theorem interpret_of_some {l : Dialect κ} {line : String} {d : Device}
    {v : Verdict (Request κ)} (h : l.verdict? line d = some v) (help : List String)
    (devices : Inventory) : l.interpret help devices line d = l.act devices v (echo line d) := by
  unfold verdict? at h
  unfold interpret
  by_cases hno : Text.trim line = "" ∨ Text.words (Text.trim line) = ["?"] ∨
      Text.words (Text.trim line) = ["help"]
  · simp [hno] at h
  · simp only [if_neg hno, Option.some.injEq] at h
    subst h
    obtain ⟨hblank, hmark, hhelp⟩ : Text.trim line ≠ "" ∧
        Text.words (Text.trim line) ≠ ["?"] ∧ Text.words (Text.trim line) ≠ ["help"] := by
      simpa [not_or] using hno
    simp only [beq_iff_eq, if_neg hblank, hmark, hhelp, Bool.or_eq_true, or_self, if_false]
    rfl

end TrainingLab.Dialect
