import TrainingLab.Json.Printer
import TrainingLab.Json.Token

/-
  What the lexer makes of printed texts. A mark is a token by itself. A word ends where the text
  does or where something else follows, and so what follows has to be said with it (`Lexes`). A
  quoted text is read piece by piece: each of its characters is written as one piece, be it by
  itself, behind a backslash or by its number.

  Proved:
  * `scan_mark`, `lexes_word`, `lexes_quoted`: the three kinds of tokens.
  * `value_literal`, `isEscapedNumber_literal`: what a quoted text stands for. A row of digits is
    written plainly, so a quoted text never passes for a number with an escape.
-/

namespace TrainingLab.Json

/-- What the lexer makes of the rest of a text. -/
def scan (l : Lexer) (cs : List Char) : Option (List Token) :=
  (cs.foldlM Lexer.take l).bind Lexer.finish?

theorem scan_cons (l : Lexer) (c : Char) (cs : List Char) :
    scan l (c :: cs) = (l.take c).bind fun next => scan next cs := by
  rw [scan, List.foldlM_cons]
  cases l.take c with
  | none => rfl
  | some next => rfl

/-- A character that completes no token and leaves the lexer with something pending. -/
theorem scan_pending {back : List Token} {p q : Pending} {c : Char}
    (h : lexStep p c = some ([], q)) (cs : List Char) :
    scan ⟨back, p⟩ (c :: cs) = scan ⟨back, q⟩ cs := by
  rw [scan_cons, Lexer.take, h]
  rfl

/-- A character that completes a token and leaves nothing pending. -/
theorem scan_token {back : List Token} {p : Pending} {c : Char} {token : Token}
    (h : lexStep p c = some ([token], .blank)) (cs : List Char) :
    scan ⟨back, p⟩ (c :: cs) = scan ⟨token :: back, .blank⟩ cs := by
  rw [scan_cons, Lexer.take, h]
  rfl

/-- A mark is a token by itself, whatever follows. -/
theorem scan_mark {c : Char} {token : Token} (h : lexStart c = some ([token], .blank))
    (back : List Token) (cs : List Char) :
    scan ⟨back, .blank⟩ (c :: cs) = scan ⟨token :: back, .blank⟩ cs := by
  have hstep : lexStep .blank c = some ([token], .blank) := h
  exact scan_token hstep cs

/-- No word goes on in the text. -/
def Ends (cs : List Char) : Prop := ∀ c, cs.head? = some c → isWordChar c = false

theorem ends_nil : Ends [] := nofun

theorem ends_cons {c : Char} (h : isWordChar c = false) (cs : List Char) : Ends (c :: cs) := by
  intro c' hc'
  rw [← Option.some.inj hc']
  exact h

/-- Where no word goes on behind them, the characters are the tokens. -/
def Lexes (cs : List Char) (tokens : List Token) : Prop :=
  ∀ back rest, Ends rest →
    scan ⟨back, .blank⟩ (cs ++ rest) = scan ⟨tokens.reverse ++ back, .blank⟩ rest

/-! ## Words -/

/-- A character of a word is no mark. -/
theorem lexStart_word {c : Char} (h : isWordChar c = true) : lexStart c = some ([], .word [c]) := by
  have hne : ∀ mark, isWordChar mark = false → c ≠ mark := by
    intro mark hmark heq
    rw [heq, hmark] at h
    cases h
  have hblank : ¬ (c = ' ' ∨ c = '\t' ∨ c = '\n' ∨ c = '\r') := by
    simp only [not_or]
    exact ⟨hne _ (by decide), hne _ (by decide), hne _ (by decide), hne _ (by decide)⟩
  rw [lexStart, if_neg hblank, if_neg (hne _ (by decide)), if_neg (hne _ (by decide)),
    if_neg (hne _ (by decide)), if_neg (hne _ (by decide)), if_neg (hne _ (by decide)),
    if_neg (hne _ (by decide)), if_neg (hne _ (by decide)), if_pos h]

theorem scan_word {cs : List Char} (h : ∀ c ∈ cs, isWordChar c = true) (back : List Token)
    (word rest : List Char) :
    scan ⟨back, .word word⟩ (cs ++ rest) = scan ⟨back, .word (cs.reverse ++ word)⟩ rest := by
  induction cs generalizing word with
  | nil => rfl
  | cons c cs ih =>
    obtain ⟨hc, hcs⟩ := List.forall_mem_cons.mp h
    have hstep : lexStep (.word word) c = some ([], .word (c :: word)) := by
      rw [lexStep, if_pos hc]
    rw [List.cons_append, scan_pending hstep, ih hcs, List.reverse_cons, List.append_assoc]
    rfl

/-- Where a word ends, it is the token that it stands for. -/
theorem scan_ends {word rest : List Char} {token : Token}
    (hword : wordToken? word.reverse = some token) (hrest : Ends rest) (back : List Token) :
    scan ⟨back, .word word⟩ rest = scan ⟨token :: back, .blank⟩ rest := by
  cases rest with
  | nil =>
    have hfinish : (Lexer.mk back (.word word)).finish? = some (token :: back).reverse := by
      simp only [Lexer.finish?, hword, Option.map_some]
    exact hfinish
  | cons c rest =>
    have hc : isWordChar c = false := hrest c rfl
    have htake :
        (Lexer.mk back (.word word)).take c = (Lexer.mk (token :: back) .blank).take c := by
      simp only [Lexer.take, lexStep, hc, hword]
      cases lexStart c with
      | none => rfl
      | some next =>
        obtain ⟨tokens, pending⟩ := next
        simp
    rw [scan_cons, scan_cons, htake]

/-- A word is one token. -/
theorem lexes_word {cs : List Char} {token : Token} (hne : cs ≠ [])
    (hchars : ∀ c ∈ cs, isWordChar c = true) (htoken : wordToken? cs = some token) :
    Lexes cs [token] := by
  intro back rest hrest
  cases cs with
  | nil => exact absurd rfl hne
  | cons c cs =>
    obtain ⟨hc, hcs⟩ := List.forall_mem_cons.mp hchars
    have hword : wordToken? (cs.reverse ++ [c]).reverse = some token := by
      rw [List.reverse_append, List.reverse_reverse]
      exact htoken
    have hstart : lexStep .blank c = some ([], .word [c]) := lexStart_word hc
    rw [List.cons_append, scan_pending hstart, scan_word hcs, scan_ends hword hrest]
    rfl

/-! ## Texts -/

/-- The piece that a character is written as. -/
def pieceOf (c : Char) : Piece :=
  if c.toNat < 0x20 ∧ c ∉ ['\n', '\r', '\t', '\x08', '\x0c'] then .unit c.toNat else .char c

/-- A text as it is written. -/
def literal (s : String) : Literal := .ofPieces (s.toList.map pieceOf)

theorem pieceOf_of_le {c : Char} (h : 0x20 ≤ c.toNat) : pieceOf c = .char c :=
  if_neg fun hcontrol => absurd hcontrol.1 (Nat.not_lt.mpr h)

/-- A character behind a backslash. -/
theorem scan_backslash {x c : Char} (h : escaped? x = some c) (hunit : x ≠ 'u')
    (back : List Token) (pieces : List Piece) (rest : List Char) :
    scan ⟨back, .text pieces⟩ ('\\' :: x :: rest) =
      scan ⟨back, .text (.char c :: pieces)⟩ rest := by
  have hopen : lexStep (.text pieces) '\\' = some ([], .escape pieces) := rfl
  have hstep : lexStep (.escape pieces) x = some ([], .text (.char c :: pieces)) := by
    rw [lexStep, if_neg hunit, h, Option.map_some]
  rw [scan_pending hopen, scan_pending hstep]

/-- The two digits that a number below 32 is written with. -/
theorem hexByte_digits : ∀ n : Fin 32,
    (Text.hexByte n).toList = [(n / 16 : Nat).digitChar, (n % 16 : Nat).digitChar] ∧
      hexValue? (n / 16 : Nat).digitChar = some (n / 16 : Nat) ∧
      hexValue? (n % 16 : Nat).digitChar = some (n % 16 : Nat) := by
  decide

/-- A character by its number. -/
theorem scan_unit {n : Nat} (h : n < 32) (back : List Token) (pieces : List Piece)
    (rest : List Char) :
    scan ⟨back, .text pieces⟩ (['\\', 'u', '0', '0'] ++ (Text.hexByte n).toList ++ rest) =
      scan ⟨back, .text (.unit n :: pieces)⟩ rest := by
  obtain ⟨hdigits, hhigh, hlow⟩ := hexByte_digits ⟨n, h⟩
  have hopen : lexStep (.text pieces) '\\' = some ([], .escape pieces) := rfl
  have hunit : lexStep (.escape pieces) 'u' = some ([], .unit pieces 4 0) := rfl
  have hzero : lexStep (.unit pieces 4 0) '0' = some ([], .unit pieces 3 0) := rfl
  have hzero' : lexStep (.unit pieces 3 0) '0' = some ([], .unit pieces 2 0) := rfl
  have hfirst : lexStep (.unit pieces 2 0) (n / 16).digitChar =
      some ([], .unit pieces 1 (n / 16)) := by
    simp [lexStep, hhigh]
  have hsecond : lexStep (.unit pieces 1 (n / 16)) (n % 16).digitChar =
      some ([], .text (.unit n :: pieces)) := by
    have hvalue : 16 * (n / 16) + n % 16 = n := Nat.div_add_mod n 16
    simp [lexStep, hlow, hvalue]
  rw [hdigits]
  simp only [List.cons_append, List.nil_append]
  rw [scan_pending hopen, scan_pending hunit, scan_pending hzero, scan_pending hzero',
    scan_pending hfirst, scan_pending hsecond]

/-- What is written for a character is read as its piece. -/
theorem scan_escape (back : List Token) (pieces : List Piece) (c : Char) (rest : List Char) :
    scan ⟨back, .text pieces⟩ (escape c ++ rest) =
      scan ⟨back, .text (pieceOf c :: pieces)⟩ rest := by
  by_cases hspecial : c ∈ ['\x22', '\\', '\n', '\r', '\t', '\x08', '\x0c']
  · simp only [List.mem_cons, List.not_mem_nil, or_false] at hspecial
    rcases hspecial with rfl | rfl | rfl | rfl | rfl | rfl | rfl
    all_goals exact scan_backslash (by decide) (by decide) back pieces rest
  · obtain ⟨hquote, hslash, hn, hr, ht, hb, hf⟩ : c ≠ '\x22' ∧ c ≠ '\\' ∧ c ≠ '\n' ∧ c ≠ '\r' ∧
        c ≠ '\t' ∧ c ≠ '\x08' ∧ c ≠ '\x0c' := by
      simpa only [List.mem_cons, List.not_mem_nil, or_false, not_or] using hspecial
    rw [escape, if_neg hquote, if_neg hslash, if_neg hn, if_neg hr, if_neg ht, if_neg hb,
      if_neg hf]
    by_cases hcontrol : c.toNat < 0x20
    · have hpiece : pieceOf c = .unit c.toNat := by
        refine if_pos ⟨hcontrol, ?_⟩
        simp only [List.mem_cons, List.not_mem_nil, or_false, not_or]
        exact ⟨hn, hr, ht, hb, hf⟩
      rw [if_pos hcontrol, hpiece]
      exact scan_unit hcontrol back pieces rest
    · have hstep : lexStep (.text pieces) c = some ([], .text (.char c :: pieces)) := by
        rw [lexStep, if_neg hquote, if_neg hslash, if_neg hcontrol]
      rw [if_neg hcontrol, pieceOf_of_le (Nat.le_of_not_lt hcontrol), List.singleton_append,
        scan_pending hstep]

theorem scan_escapes (back : List Token) (pieces : List Piece) (cs rest : List Char) :
    scan ⟨back, .text pieces⟩ (cs.flatMap escape ++ rest) =
      scan ⟨back, .text ((cs.map pieceOf).reverse ++ pieces)⟩ rest := by
  induction cs generalizing pieces with
  | nil => rfl
  | cons c cs ih =>
    rw [List.flatMap_cons, List.append_assoc, scan_escape, ih, List.map_cons, List.reverse_cons,
      List.append_assoc]
    rfl

/-- A quoted text is one token, whatever follows. -/
theorem lexes_quoted (s : String) : Lexes (quoted s).toList [.text (literal s)] := by
  intro back rest _
  have hopen : lexStep .blank '\x22' = some ([], .text []) := rfl
  have hclose : ∀ pieces, lexStep (.text pieces) '\x22' =
      some ([.text (.ofPieces pieces.reverse)], .blank) := fun _ => rfl
  rw [quoted, String.toList_ofList, List.append_assoc, List.cons_append, scan_pending hopen,
    scan_escapes, List.singleton_append, scan_token (hclose _), List.append_nil,
    List.reverse_reverse]
  rfl

/-- A number that is no half of a surrogate pair stands for its character. -/
theorem characters?_unit {n : Nat} (h : n < 0x20) (rest : List Piece) :
    characters? (.unit n :: rest) = (characters? rest).map (Char.ofNat n :: ·) := by
  have hleading : isLeading n = false := by
    rw [isLeading, decide_eq_false (by omega), Bool.false_and]
  have htrailing : isTrailing n = false := by
    rw [isTrailing, decide_eq_false (by omega), Bool.false_and]
  cases rest with
  | nil => simp [characters?, hleading, htrailing]
  | cons piece rest => cases piece <;> simp [characters?, hleading, htrailing]

theorem characters?_pieceOf (cs : List Char) : characters? (cs.map pieceOf) = some cs := by
  induction cs with
  | nil => rfl
  | cons c cs ih =>
    rw [List.map_cons, pieceOf]
    split
    next hcontrol =>
      rw [characters?_unit hcontrol.1, ih, Option.map_some, Char.ofNat_toNat]
    next => rw [characters?, ih, Option.map_some]

/-- A quoted text stands for the text. -/
theorem value_literal (s : String) : (literal s).value = some s := by
  rw [literal, Literal.ofPieces, characters?_pieceOf, Option.map_some, String.ofList_toList]

/-- A row of digits is written plainly. -/
theorem isEscapedNumber_literal (s : String) : (literal s).isEscapedNumber = false := by
  rw [Literal.isEscapedNumber, value_literal, Option.any_some]
  cases hdigits : s.toList.all Char.isDigit with
  | false => rw [Bool.and_false]
  | true =>
    have hplain : (literal s).isPlain = true := by
      rw [literal, Literal.ofPieces, List.all_map, List.all_eq_true]
      intro c hc
      have hrange : 0x20 ≤ c.toNat := by
        have hdigit : c.isDigit = true := List.all_eq_true.mp hdigits c hc
        have hbounds : 48 ≤ c.toNat ∧ c.toNat ≤ 57 := by
          simpa [Char.isDigit, UInt32.le_iff_toNat_le] using hdigit
        omega
      rw [Function.comp_apply, pieceOf_of_le hrange]
    rw [hplain, Bool.not_true, Bool.false_and]

end TrainingLab.Json
