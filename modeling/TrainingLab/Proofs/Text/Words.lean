import TrainingLab.Text.Words

/-
  Where the characters of the pieces of a text come from, and what the white space around a text
  does to them. Trimming takes off the white space at both ends, and all of it (`exists_trim`,
  `trimmed_trim`, `trim_around`).
-/

namespace TrainingLab.Text

/-! ## Marks at the ends -/

theorem eq_append_of_afterStart? {start cs rest : List Char}
    (h : afterStart? start cs = some rest) : cs = start ++ rest := by
  induction start generalizing cs with
  | nil =>
    cases h
    rfl
  | cons a start ih =>
    cases cs with
    | nil => cases h
    | cons c cs =>
      rw [afterStart?] at h
      split at h
      next heq => rw [heq, ih h, List.cons_append]
      next => cases h

theorem eq_append_of_beforeEnd? {ending cs rest : List Char}
    (h : beforeEnd? ending cs = some rest) : cs = rest ++ ending := by
  obtain ⟨back, hback, rfl⟩ := Option.map_eq_some_iff.mp h
  have := congrArg List.reverse (eq_append_of_afterStart? hback)
  simpa using this

/-! ## Words -/

theorem mem_flushWord {word : List Char} {rest : List (List Char)} {w : List Char}
    (h : w ∈ flushWord word rest) : (w = word.reverse ∧ word ≠ []) ∨ w ∈ rest := by
  unfold flushWord at h
  split at h
  next => exact Or.inr h
  next hword =>
    rcases List.mem_cons.mp h with rfl | h
    · exact Or.inl ⟨rfl, by simpa using hword⟩
    · exact Or.inr h

/-- A word is not empty, and its characters come from the text. -/
theorem mem_wordsFrom {cs word w : List Char} (h : w ∈ wordsFrom word cs) :
    w ≠ [] ∧ ∀ c ∈ w, c ∈ word ∨ c ∈ cs := by
  have hflush : ∀ {word w : List Char}, w = word.reverse ∧ word ≠ [] →
      w ≠ [] ∧ ∀ c ∈ w, c ∈ word := by
    rintro word w ⟨rfl, hne⟩
    exact ⟨by simpa using hne, by simp⟩
  induction cs generalizing word with
  | nil =>
    rcases mem_flushWord h with h | h
    · exact ⟨(hflush h).1, fun c hc => Or.inl ((hflush h).2 c hc)⟩
    · cases h
  | cons c cs ih =>
    rw [wordsFrom] at h
    split at h
    next =>
      rcases mem_flushWord h with h | h
      · exact ⟨(hflush h).1, fun x hx => Or.inl ((hflush h).2 x hx)⟩
      · refine ⟨(ih h).1, fun x hx => Or.inr ?_⟩
        rcases (ih h).2 x hx with hx | hx
        · cases hx
        · exact List.mem_cons_of_mem c hx
    next =>
      refine ⟨(ih h).1, fun x hx => ?_⟩
      rcases (ih h).2 x hx with hx | hx
      · rcases List.mem_cons.mp hx with rfl | hx
        · exact Or.inr List.mem_cons_self
        · exact Or.inl hx
      · exact Or.inr (List.mem_cons_of_mem c hx)

/-- No character of a word is white space. -/
theorem not_blank_of_mem_wordsFrom {cs word w : List Char}
    (hword : ∀ c ∈ word, isBlank c = false) (h : w ∈ wordsFrom word cs) :
    ∀ c ∈ w, isBlank c = false := by
  have hflush : ∀ {word : List Char}, (∀ c ∈ word, isBlank c = false) →
      w = word.reverse ∧ word ≠ [] → ∀ c ∈ w, isBlank c = false := by
    rintro word hword ⟨rfl, _⟩ c hc
    exact hword c (List.mem_reverse.mp hc)
  induction cs generalizing word with
  | nil =>
    rcases mem_flushWord h with h | h
    · exact hflush hword h
    · cases h
  | cons c cs ih =>
    rw [wordsFrom] at h
    split at h
    next =>
      rcases mem_flushWord h with h | h
      · exact hflush hword h
      · exact ih (List.forall_mem_nil _) h
    next hc => exact ih (List.forall_mem_cons.mpr ⟨Bool.eq_false_iff.mpr hc, hword⟩) h

theorem not_blank_of_mem_words {text w : String} (h : w ∈ words text) :
    ∀ c ∈ w.toList, isBlank c = false := by
  obtain ⟨cs, hcs, rfl⟩ := List.mem_map.mp h
  rw [String.toList_ofList]
  exact not_blank_of_mem_wordsFrom (List.forall_mem_nil _) hcs

/-- The words of a text are not empty. -/
theorem ne_empty_of_mem_words {text w : String} (h : w ∈ words text) : w ≠ "" := by
  obtain ⟨cs, hcs, rfl⟩ := List.mem_map.mp h
  intro he
  exact (mem_wordsFrom hcs).1 (String.ofList_eq_empty_iff.mp he)

theorem wordsFrom_dropWhile (cs : List Char) :
    wordsFrom [] (cs.dropWhile isBlank) = wordsFrom [] cs := by
  induction cs with
  | nil => rfl
  | cons c cs ih =>
    by_cases hc : isBlank c = true
    · rw [List.dropWhile_cons_of_pos hc, ih, wordsFrom, if_pos hc]
      rfl
    · rw [List.dropWhile_cons_of_neg hc]

theorem flushWord_append (word : List Char) (rest : List (List Char)) :
    flushWord word rest = flushWord word [] ++ rest := by
  unfold flushWord
  split <;> rfl

/-- The words before and after a blank are read on their own. -/
theorem wordsFrom_append_of_blank (word cs more : List Char) {c : Char} (hc : isBlank c = true) :
    wordsFrom word (cs ++ c :: more) = wordsFrom word cs ++ wordsFrom [] more := by
  induction cs generalizing word with
  | nil =>
    simp only [List.nil_append, wordsFrom, if_pos hc]
    exact flushWord_append word _
  | cons a cs ih =>
    rw [List.cons_append, wordsFrom, wordsFrom]
    split
    next => rw [ih, flushWord_append, ← List.append_assoc, ← flushWord_append]
    next => exact ih _

theorem wordsFrom_append_blank (word cs : List Char) {c : Char} (hc : isBlank c = true) :
    wordsFrom word (cs ++ [c]) = wordsFrom word cs := by
  rw [wordsFrom_append_of_blank word cs [] hc]
  exact List.append_nil _

theorem wordsFrom_dropEndWhile (cs : List Char) :
    wordsFrom [] (dropEndWhile isBlank cs) = wordsFrom [] cs := by
  -- the induction goes over the characters from the end, where they are dropped
  unfold dropEndWhile
  rw [← List.reverse_reverse cs, List.reverse_reverse cs.reverse]
  generalize cs.reverse = back
  induction back with
  | nil => rfl
  | cons c back ih =>
    by_cases hc : isBlank c = true
    · rw [List.dropWhile_cons_of_pos hc, ih, List.reverse_cons, wordsFrom_append_blank _ _ hc]
    · rw [List.dropWhile_cons_of_neg hc]

/-- White space around a text makes no difference to its words. -/
theorem words_trim (s : String) : words (trim s) = words s := by
  rw [words, words, trim, String.toList_ofList, wordsFrom_dropEndWhile, wordsFrom_dropWhile]

theorem wordsFrom_ne_nil {word : List Char} (h : word ≠ []) (cs : List Char) :
    wordsFrom word cs ≠ [] := by
  have hflush : ∀ {word : List Char} {rest}, word ≠ [] → flushWord word rest ≠ [] := by
    intro word rest hword
    rw [flushWord, if_neg (by simpa using hword)]
    exact List.cons_ne_nil _ _
  induction cs generalizing word with
  | nil => exact hflush h
  | cons c cs ih =>
    rw [wordsFrom]
    split
    next => exact hflush h
    next => exact ih (List.cons_ne_nil c word)

/-- A text without words is white space. -/
theorem words_eq_nil_iff {s : String} : words s = [] ↔ trim s = "" := by
  constructor
  · intro h
    cases hrest : s.toList.dropWhile isBlank with
    | nil => rw [trim, hrest, dropEndWhile, List.reverse_nil, List.dropWhile_nil]; rfl
    | cons c cs =>
      have hc : isBlank c ≠ true := by
        have hhead := List.head?_dropWhile_not isBlank s.toList
        rw [hrest] at hhead
        simpa using hhead
      rw [words, ← wordsFrom_dropWhile, hrest, wordsFrom, if_neg hc, List.map_eq_nil_iff] at h
      exact absurd h (wordsFrom_ne_nil (List.cons_ne_nil c []) cs)
  · intro h
    rw [← words_trim, h]
    rfl

/-- The words of a text behind one that ends with a blank. -/
theorem words_append_of_blank {s : String} {c : Char} (hlast : s.toList.getLast? = some c)
    (hc : isBlank c = true) (t : String) : words (s ++ t) = words s ++ words t := by
  obtain ⟨cs, hcs⟩ := List.getLast?_eq_some_iff.mp hlast
  rw [words, words, words, String.toList_append, hcs, List.append_assoc, List.singleton_append,
    wordsFrom_append_of_blank [] cs _ hc, wordsFrom_append_blank [] cs hc, List.map_append]

/-- The words of a text that begins with a blank, behind another one. -/
theorem words_append_of_head {s t : String} {c : Char} (hfirst : t.toList.head? = some c)
    (hc : isBlank c = true) : words (s ++ t) = words s ++ words t := by
  obtain ⟨cs, hcs⟩ := List.head?_eq_some_iff.mp hfirst
  have hskip : wordsFrom [] (c :: cs) = wordsFrom [] cs := by
    rw [wordsFrom, if_pos hc]
    rfl
  rw [words, words, words, String.toList_append, hcs, wordsFrom_append_of_blank [] _ _ hc, hskip,
    List.map_append]

theorem getLast?_append {s t : String} {c : Char} (h : t.toList.getLast? = some c) :
    (s ++ t).toList.getLast? = some c := by
  rw [String.toList_append, List.getLast?_append, h, Option.some_or]

/-! ## Unbroken texts -/

/-- The text has no white space, and so is one word if it is not empty. -/
def Unbroken (s : String) : Prop := ∀ c ∈ s.toList, isBlank c = false

instance (s : String) : Decidable (Unbroken s) :=
  List.decidableBAll _ _

theorem wordsFrom_of_unbroken {word cs : List Char} (h : ∀ c ∈ cs, isBlank c = false) :
    wordsFrom word cs = flushWord (cs.reverse ++ word) [] := by
  induction cs generalizing word with
  | nil => rfl
  | cons c cs ih =>
    obtain ⟨hc, hcs⟩ := List.forall_mem_cons.mp h
    rw [wordsFrom, hc, if_neg Bool.false_ne_true, ih hcs, List.reverse_cons, List.append_assoc,
      List.singleton_append]

/-- An unbroken text is one word. -/
theorem words_of_unbroken {s : String} (h : Unbroken s) (hne : s ≠ "") : words s = [s] := by
  have hchars : s.toList ≠ [] := by simpa using hne
  rw [words, wordsFrom_of_unbroken h, List.append_nil, flushWord]
  simp [hchars]

theorem words_append_space (s : String) : words (s ++ " ") = words s := by
  have hspace : " ".toList = [' '] := by decide
  rw [words, words, String.toList_append, hspace, wordsFrom_append_blank _ _ (by decide)]

/-- A word behind a text that ends with a blank is a further word. -/
theorem words_append_word {s : String} {c : Char} (hlast : s.toList.getLast? = some c)
    (hc : isBlank c = true) {t : String} (ht : Unbroken t) (hne : t ≠ "") :
    words (s ++ t) = words s ++ [t] := by
  rw [words_append_of_blank hlast hc, words_of_unbroken ht hne]

theorem unbroken_of_mem_words {text w : String} (h : w ∈ words text) : Unbroken w :=
  not_blank_of_mem_words h

theorem Unbroken.append {s t : String} (hs : Unbroken s) (ht : Unbroken t) :
    Unbroken (s ++ t) := by
  intro c hc
  rw [String.toList_append, List.mem_append] at hc
  exact hc.elim (hs c) (ht c)

/-- An unbroken text has no line feed. -/
theorem Unbroken.feed_not_mem {s : String} (h : Unbroken s) : '\n' ∉ s.toList :=
  fun hfeed => absurd (h _ hfeed) (by decide)

/-! ## Margins -/

theorem dropWhile_of_head {p : Char → Bool} {cs : List Char}
    (h : ∀ c, cs.head? = some c → p c = false) : cs.dropWhile p = cs := by
  cases cs with
  | nil => rfl
  | cons c cs => rw [List.dropWhile_cons_of_neg (by simp [h c rfl])]

theorem not_of_head_dropWhile {p : Char → Bool} {cs : List Char} {c : Char}
    (h : (cs.dropWhile p).head? = some c) : p c = false := by
  have hnot := List.head?_dropWhile_not p cs
  rw [h] at hnot
  exact hnot

/-- What is dropped from the end follows what is left. -/
theorem exists_dropEndWhile (p : Char → Bool) (cs : List Char) :
    ∃ ending, (∀ c ∈ ending, p c = true) ∧ cs = dropEndWhile p cs ++ ending := by
  refine ⟨(cs.reverse.takeWhile p).reverse, fun c hc => ?_, ?_⟩
  · exact List.all_eq_true.mp List.all_takeWhile c (List.mem_reverse.mp hc)
  · rw [dropEndWhile, ← List.reverse_append, List.takeWhile_append_dropWhile,
      List.reverse_reverse]

/-- The characters are white space, if there are any. -/
def AllBlank (cs : List Char) : Prop := ∀ c ∈ cs, isBlank c = true

/-- No white space stands at an end. -/
structure Trimmed (cs : List Char) : Prop where
  head : ∀ c, cs.head? = some c → isBlank c = false
  last : ∀ c, cs.getLast? = some c → isBlank c = false

theorem Trimmed.of_not_blank {cs : List Char} (h : ∀ c ∈ cs, isBlank c = false) : Trimmed cs :=
  ⟨fun c hc => h c (List.mem_of_head? hc), fun c hc => h c (List.mem_of_getLast? hc)⟩

theorem trimmed_trim (s : String) : Trimmed (trim s).toList := by
  rw [trim, String.toList_ofList]
  refine ⟨fun c hc => ?_, fun c hc => ?_⟩
  · obtain ⟨ending, -, hending⟩ := exists_dropEndWhile isBlank (s.toList.dropWhile isBlank)
    have hfirst : (s.toList.dropWhile isBlank).head? = some c := by
      rw [hending, List.head?_append, hc, Option.some_or]
    exact not_of_head_dropWhile hfirst
  · rw [dropEndWhile, List.getLast?_reverse] at hc
    exact not_of_head_dropWhile hc

/-- What is taken off is white space, at both ends. -/
theorem exists_trim (s : String) : ∃ before after, AllBlank before ∧ AllBlank after ∧
    s.toList = before ++ ((trim s).toList ++ after) := by
  obtain ⟨after, hafter, hrest⟩ := exists_dropEndWhile isBlank (s.toList.dropWhile isBlank)
  refine ⟨s.toList.takeWhile isBlank, after, List.all_eq_true.mp List.all_takeWhile, hafter, ?_⟩
  rw [trim, String.toList_ofList, ← hrest, List.takeWhile_append_dropWhile]

/-- All white space around a text is taken off. -/
theorem trim_around {s : String} {before cs after : List Char}
    (hs : s.toList = before ++ (cs ++ after)) (hbefore : AllBlank before) (hafter : AllBlank after)
    (h : Trimmed cs) : trim s = String.ofList cs := by
  rw [trim, hs, List.dropWhile_append_of_pos hbefore]
  cases cs with
  | nil =>
    rw [List.nil_append, ← List.append_nil after, List.dropWhile_append_of_pos hafter]
    rfl
  | cons c cs =>
    have hfront : (c :: cs ++ after).dropWhile isBlank = c :: cs ++ after :=
      dropWhile_of_head fun _ hc => h.head _ hc
    have hback : (c :: cs).reverse.dropWhile isBlank = (c :: cs).reverse :=
      dropWhile_of_head fun _ hc => h.last _ (List.head?_reverse ▸ hc)
    rw [hfront, dropEndWhile, List.reverse_append,
      List.dropWhile_append_of_pos fun _ hc => hafter _ (List.mem_reverse.mp hc), hback,
      List.reverse_reverse]

theorem trim_of_unbroken {s : String} (h : Unbroken s) : trim s = s := by
  have hs : s.toList = [] ++ (s.toList ++ []) := by rw [List.append_nil, List.nil_append]
  rw [trim_around hs (List.forall_mem_nil _) (List.forall_mem_nil _) (.of_not_blank h),
    String.ofList_toList]

theorem subset_trim (s : String) : (trim s).toList ⊆ s.toList := by
  obtain ⟨before, after, -, -, hs⟩ := exists_trim s
  intro c hc
  rw [hs]
  exact List.mem_append_right _ (List.mem_append_left _ hc)

/-! ## Joined words -/

/-- The text is one word. -/
def IsWord (s : String) : Prop := Unbroken s ∧ s ≠ ""

instance (s : String) : Decidable (IsWord s) :=
  inferInstanceAs (Decidable (_ ∧ _))

/-- The text is its words with single spaces between them. -/
def IsNormal (s : String) : Prop := joinWith " " (words s) = s

instance (s : String) : Decidable (IsNormal s) :=
  inferInstanceAs (Decidable (_ = _))

theorem isWord_of_mem_words {text w : String} (h : w ∈ words text) : IsWord w :=
  ⟨unbroken_of_mem_words h, ne_empty_of_mem_words h⟩

theorem IsWord.words_eq {s : String} (h : IsWord s) : words s = [s] := words_of_unbroken h.1 h.2

/-- A word between two texts, with blanks around it. -/
theorem words_around {s w t : String} (hlast : s.toList.getLast? = some ' ') (hw : IsWord w)
    (hfirst : t.toList.head? = some ' ') : words (s ++ w ++ t) = words s ++ w :: words t := by
  rw [words_append_of_head hfirst (by decide), words_append_word hlast (by decide) hw.1 hw.2,
    List.append_assoc, List.singleton_append]

/-- Two words behind a text, with another text between them. -/
theorem words_around_append_word {s w t v : String} (hlast : s.toList.getLast? = some ' ')
    (hw : IsWord w) (hfirst : t.toList.head? = some ' ') (hend : t.toList.getLast? = some ' ')
    (hv : IsWord v) : words (s ++ w ++ t ++ v) = words s ++ w :: words t ++ [v] := by
  rw [words_append_word (getLast?_append hend) (by decide) hv.1 hv.2,
    words_around hlast hw hfirst]

/-- Words that are joined by spaces are found again. -/
theorem words_joinWith {ws : List String} (h : ∀ w ∈ ws, IsWord w) :
    words (joinWith " " ws) = ws := by
  induction ws with
  | nil => rfl
  | cons w rest ih =>
    obtain ⟨hw, hrest⟩ := List.forall_mem_cons.mp h
    cases rest with
    | nil => exact hw.words_eq
    | cons t rest =>
      have hspace : (w ++ " ").toList.getLast? = some ' ' := getLast?_append rfl
      rw [joinWith, words_append_of_blank hspace (by decide), ih hrest, words_append_space,
        hw.words_eq, List.singleton_append]

theorem isNormal_joinWith {ws : List String} (h : ∀ w ∈ ws, IsWord w) :
    IsNormal (joinWith " " ws) := by
  rw [IsNormal, words_joinWith h]

/-- A normal text that is not empty has a first word. -/
theorem IsNormal.exists_words {s : String} (h : IsNormal s) (hne : s ≠ "") :
    ∃ w rest, words s = w :: rest := by
  cases hwords : words s with
  | nil =>
    rw [IsNormal, hwords] at h
    exact absurd h.symm hne
  | cons w rest => exact ⟨w, rest, rfl⟩

/-! ## Joining -/

/-- The separator stands before every text but the first. -/
theorem toList_joinWith (separator s : String) (rest : List String) :
    (joinWith separator (s :: rest)).toList =
      s.toList ++ rest.flatMap fun t => separator.toList ++ t.toList := by
  induction rest generalizing s with
  | nil => rw [joinWith, List.flatMap_nil, List.append_nil]
  | cons t rest ih =>
    rw [joinWith, String.toList_append, String.toList_append, ih, List.flatMap_cons,
      List.append_assoc, List.append_assoc]

/-! ## Lines -/

/-- Whether a text has a line feed is a question about its characters. -/
theorem feed_not_mem_ofList {cs : List Char} (h : '\n' ∉ cs) :
    '\n' ∉ (String.ofList cs).toList := by
  rwa [String.toList_ofList]

theorem feed_not_mem_append {s t : String} (hs : '\n' ∉ s.toList) (ht : '\n' ∉ t.toList) :
    '\n' ∉ (s ++ t).toList := by
  rw [String.toList_append, List.mem_append, not_or]
  exact ⟨hs, ht⟩

theorem linesFrom_of_no_feed {line cs : List Char} (h : '\n' ∉ cs) :
    linesFrom line cs = if (line.reverse ++ cs).isEmpty then [] else [line.reverse ++ cs] := by
  induction cs generalizing line with
  | nil => simp [linesFrom]
  | cons c cs ih =>
    obtain ⟨hc, hcs⟩ : '\n' ≠ c ∧ '\n' ∉ cs := by simpa using h
    rw [linesFrom, if_neg (Ne.symm hc), ih hcs]
    simp

/-- A text without a line feed is one line, or none if it is empty. -/
theorem lines_of_no_feed {s : String} (h : '\n' ∉ s.toList) :
    lines s = if s.isEmpty then [] else [s] := by
  rw [lines, linesFrom_of_no_feed h]
  by_cases hs : s = ""
  · subst hs
    rfl
  · simp [hs]

theorem subset_endLine (line : List Char) : ∀ c ∈ endLine line, c ∈ line := by
  intro c hc
  unfold endLine at hc
  split at hc
  next cs => exact List.mem_cons_of_mem '\r' (List.mem_reverse.mp hc)
  next => exact List.mem_reverse.mp hc

theorem feed_not_mem_linesFrom {line cs : List Char} (hline : '\n' ∉ line) :
    ∀ w ∈ linesFrom line cs, '\n' ∉ w := by
  induction cs generalizing line with
  | nil =>
    intro w hw
    rw [linesFrom] at hw
    split at hw
    next => cases hw
    next =>
      rw [List.mem_singleton.mp hw, List.mem_reverse]
      exact hline
  | cons c cs ih =>
    rw [linesFrom]
    split
    next =>
      refine List.forall_mem_cons.mpr ⟨fun hfeed => ?_, ih List.not_mem_nil⟩
      exact hline (subset_endLine line _ hfeed)
    next hc =>
      refine ih fun hfeed => ?_
      rcases List.mem_cons.mp hfeed with heq | hmem
      · exact hc heq.symm
      · exact hline hmem

/-- No line of a text has a line feed. -/
theorem feed_not_mem_lines {s w : String} (h : w ∈ lines s) : '\n' ∉ w.toList := by
  obtain ⟨cs, hcs, rfl⟩ := List.mem_map.mp h
  exact feed_not_mem_ofList (feed_not_mem_linesFrom List.not_mem_nil cs hcs)

theorem linesFrom_ne_nil {line cs : List Char} (h : line ≠ [] ∨ cs ≠ []) :
    linesFrom line cs ≠ [] := by
  induction cs generalizing line with
  | nil =>
    have hline : line ≠ [] := h.resolve_right fun hnil => hnil rfl
    rw [linesFrom, if_neg (by simpa using hline)]
    exact List.cons_ne_nil _ _
  | cons c cs ih =>
    rw [linesFrom]
    split
    next => exact List.cons_ne_nil _ _
    next => exact ih (Or.inl (List.cons_ne_nil c line))

theorem lines_ne_nil {s : String} (h : s ≠ "") : lines s ≠ [] := by
  have hchars : s.toList ≠ [] := by simpa using h
  rw [lines, Ne, List.map_eq_nil_iff]
  exact linesFrom_ne_nil (Or.inr hchars)

theorem length_linesFrom_append {cs more : List Char} {c : Char} (hlast : cs.getLast? = some c)
    (hc : c ≠ '\n') (hmore : '\n' ∉ more) (line : List Char) :
    (linesFrom line (cs ++ more)).length = (linesFrom line cs).length := by
  induction cs generalizing line with
  | nil => cases hlast
  | cons a cs ih =>
    rw [List.cons_append, linesFrom, linesFrom]
    cases cs with
    | nil =>
      obtain rfl : a = c := Option.some.inj hlast
      rw [if_neg hc, if_neg hc, List.nil_append, linesFrom_of_no_feed hmore]
      simp [linesFrom]
    | cons b cs =>
      rw [List.getLast?_cons_cons] at hlast
      split
      next => rw [List.length_cons, List.length_cons, ih hlast]
      next => exact ih hlast _

/-- A text that ends inside a line has no further lines if the rest of the line follows. -/
theorem length_lines_append {s more : String} {c : Char} (hlast : s.toList.getLast? = some c)
    (hc : c ≠ '\n') (hmore : '\n' ∉ more.toList) :
    (lines (s ++ more)).length = (lines s).length := by
  rw [lines, lines, List.length_map, List.length_map, String.toList_append]
  exact length_linesFrom_append hlast hc hmore []

/-! ## Beginnings -/

theorem begins_append {start s : String} (h : begins start s = true) (t : String) :
    begins start (s ++ t) = true := by
  rw [begins, List.isPrefixOf_iff_prefix, String.toList_append]
  exact (List.isPrefixOf_iff_prefix.mp h).trans (List.prefix_append _ _)

/-- Texts neither of which begins with the other differ early. -/
theorem not_begins_append {start s : String} (h : begins start s = false)
    (h' : begins s start = false) (t : String) : begins start (s ++ t) = false := by
  rw [Bool.eq_false_iff] at h h' ⊢
  intro hbegins
  rw [begins, List.isPrefixOf_iff_prefix, String.toList_append] at hbegins
  rcases List.prefix_or_prefix_of_prefix hbegins (List.prefix_append _ _) with hstart | hs
  · exact h (List.isPrefixOf_iff_prefix.mpr hstart)
  · exact h' (List.isPrefixOf_iff_prefix.mpr hs)

/-! ## Parts -/

theorem cutFirst_append {p : Char → Bool} {cs : List Char} (h : ∀ c ∈ cs, p c = false) {c : Char}
    (hc : p c = true) (more : List Char) : cutFirst p (cs ++ c :: more) = some (cs, more) := by
  induction cs with
  | nil => rw [List.nil_append, cutFirst, if_pos hc]
  | cons a cs ih =>
    obtain ⟨ha, hcs⟩ := List.forall_mem_cons.mp h
    rw [List.cons_append, cutFirst, ha, if_neg Bool.false_ne_true, ih hcs, Option.map_some]

theorem subset_of_cutFirst {p : Char → Bool} {cs a b : List Char}
    (h : cutFirst p cs = some (a, b)) : a ⊆ cs := by
  induction cs generalizing a with
  | nil => cases h
  | cons c cs ih =>
    rw [cutFirst] at h
    split at h
    next =>
      cases h
      exact List.nil_subset _
    next =>
      obtain ⟨⟨a', b'⟩, hcut, hparts⟩ := Option.map_eq_some_iff.mp h
      cases hparts
      exact List.cons_subset_cons c (ih hcut)

/-- The part of an unbroken text before a mark is unbroken. -/
theorem unbroken_of_splitFirst? {p : Char → Bool} {s a b : String} (hs : Unbroken s)
    (h : splitFirst? p s = some (a, b)) : Unbroken a := by
  obtain ⟨⟨cs, more⟩, hcut, hparts⟩ := Option.map_eq_some_iff.mp h
  cases hparts
  intro c hc
  rw [String.toList_ofList] at hc
  exact hs c (subset_of_cutFirst hcut hc)

/-! ## The last part -/

/-- Up to the last `c`, if there is one. -/
def EndsAfter (c : Char) (head : String) : Prop := head = "" ∨ head.toList.getLast? = some c

theorem splitAfterLast_append {c : Char} {head part : String} (hhead : EndsAfter c head)
    (hpart : c ∉ part.toList) : splitAfterLast c (head ++ part) = (head, part) := by
  have hkeep : ∀ a ∈ part.toList.reverse, (a != c) = true := fun a ha =>
    bne_iff_ne.mpr fun heq => hpart (heq ▸ List.mem_reverse.mp ha)
  have hstop : head.toList.reverse.takeWhile (· != c) = [] ∧
      head.toList.reverse.dropWhile (· != c) = head.toList.reverse := by
    rcases hhead with rfl | hlast
    · exact ⟨rfl, rfl⟩
    · obtain ⟨before, heq⟩ := List.getLast?_eq_some_iff.mp hlast
      simp [heq]
  rw [splitAfterLast, String.toList_append, List.reverse_append,
    List.takeWhile_append_of_pos hkeep, List.dropWhile_append_of_pos hkeep, hstop.1, hstop.2]
  simp

theorem exists_splitAfterLast (c : Char) (s : String) :
    ∃ head part, s = head ++ part ∧ EndsAfter c head ∧ c ∉ part.toList := by
  refine ⟨(splitAfterLast c s).1, (splitAfterLast c s).2, ?_, ?_, ?_⟩
  · rw [splitAfterLast, ← String.ofList_append, ← List.reverse_append,
      List.takeWhile_append_dropWhile, List.reverse_reverse, String.ofList_toList]
  · rw [splitAfterLast, EndsAfter, String.toList_ofList, String.ofList_eq_empty_iff,
      List.reverse_eq_nil_iff, List.getLast?_reverse]
    have hstop := List.head?_dropWhile_not (· != c) s.toList.reverse
    cases hrest : s.toList.reverse.dropWhile (· != c) with
    | nil => exact Or.inl rfl
    | cons a rest =>
      rw [hrest] at hstop
      exact Or.inr (congrArg some (by simpa using hstop))
  · rw [splitAfterLast, String.toList_ofList, List.mem_reverse]
    intro hmem
    simpa using List.all_eq_true.mp (List.all_takeWhile (p := (· != c))) _ hmem

end TrainingLab.Text
