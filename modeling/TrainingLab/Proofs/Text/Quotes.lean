import TrainingLab.Proofs.Text.Words

/-
  Texts in double quotes among the words of a line. The quotes are no syntax for the words: a line
  is cut at its blanks whether they are quoted or not. So a text comes back from between its quotes
  only if its blanks are as a joining of words leaves them, and no quote of its own stands at
  either end.

  Proved:
  * `unquote_inQuotes`, `bare_unquote`: quotes are put around and taken off again.
  * `joinWith_words_inQuotes`: the words of a spaced text in quotes are joined to it again.
  * `spaced_joinWith`, `spaced_unquote`: what was joined and unquoted is spaced.
-/

namespace TrainingLab.Text

/-- The text between double quotes. -/
def inQuotes (s : String) : String := "\"" ++ s ++ "\""

/-- No double quote stands at an end of the text. -/
def Bare (s : String) : Prop :=
  s.toList.head? ≠ some '\x22' ∧ s.toList.getLast? ≠ some '\x22'

instance (s : String) : Decidable (Bare s) :=
  inferInstanceAs (Decidable (_ ∧ _))

/-- Every blank is a space, and no blank follows another. -/
inductive Spaced : List Char → Prop
  | nil : Spaced []
  | cons {c : Char} {cs : List Char}
      (h : isBlank c = true → c = ' ' ∧ ∀ b, cs.head? = some b → isBlank b = false)
      (hcs : Spaced cs) : Spaced (c :: cs)

/-! ## Quotes -/

theorem toList_inQuotes (s : String) : (inQuotes s).toList = '\x22' :: (s.toList ++ ['\x22']) := by
  rw [inQuotes, String.toList_append, String.toList_append]
  rfl

theorem inQuotes_ne_empty (s : String) : inQuotes s ≠ "" := by
  intro h
  have hchars := toList_inQuotes s
  rw [h] at hchars
  cases hchars

theorem unbroken_inQuotes {s : String} (h : Unbroken s) : Unbroken (inQuotes s) :=
  Unbroken.append (Unbroken.append (by decide) h) (by decide)

/-- No quote is left at an end once quotes are taken off. -/
theorem bare_unquote (s : String) : Bare (unquote s) := by
  rw [Bare, unquote, dropAround, String.toList_ofList]
  refine ⟨fun hhead => ?_, fun hlast => ?_⟩
  · obtain ⟨ending, -, hending⟩ := exists_dropEndWhile (· == '\x22')
      (s.toList.dropWhile (· == '\x22'))
    have hfirst : (s.toList.dropWhile (· == '\x22')).head? = some '\x22' := by
      rw [hending, List.head?_append, hhead, Option.some_or]
    exact absurd (not_of_head_dropWhile hfirst) (by decide)
  · rw [dropEndWhile, List.getLast?_reverse] at hlast
    exact absurd (not_of_head_dropWhile hlast) (by decide)

theorem dropWhile_of_bare {s : String} (h : Bare s) :
    s.toList.dropWhile (· == '\x22') = s.toList :=
  dropWhile_of_head fun _ hc => beq_eq_false_iff_ne.mpr fun heq => h.1 (heq ▸ hc)

theorem dropEndWhile_of_bare {s : String} (h : Bare s) :
    dropEndWhile (· == '\x22') s.toList = s.toList := by
  have hback : s.toList.reverse.dropWhile (· == '\x22') = s.toList.reverse := by
    refine dropWhile_of_head fun c hc => beq_eq_false_iff_ne.mpr fun heq => h.2 ?_
    rw [← heq, ← hc, List.head?_reverse]
  rw [dropEndWhile, hback, List.reverse_reverse]

/-- Where no quote stands at an end, none is taken off. -/
theorem unquote_of_bare {s : String} (h : Bare s) : unquote s = s := by
  rw [unquote, dropAround, dropWhile_of_bare h, dropEndWhile_of_bare h, String.ofList_toList]

/-- Quotes that are put around a text that has none at its ends are taken off again. -/
theorem unquote_inQuotes {s : String} (h : Bare s) : unquote (inQuotes s) = s := by
  by_cases hs : s = ""
  · subst hs
    rfl
  · have hfront : (s.toList ++ ['\x22']).dropWhile (· == '\x22') = s.toList ++ ['\x22'] := by
      refine dropWhile_of_head fun c hc => beq_eq_false_iff_ne.mpr fun heq => h.1 ?_
      rw [List.head?_append, Option.or_of_isSome (by simpa using hs)] at hc
      exact heq ▸ hc
    have hback : dropEndWhile (· == '\x22') (s.toList ++ ['\x22']) = s.toList := by
      rw [dropEndWhile, List.reverse_append, List.reverse_singleton, List.singleton_append,
        List.dropWhile_cons_of_pos (by decide)]
      exact dropEndWhile_of_bare h
    rw [unquote, dropAround, toList_inQuotes, List.dropWhile_cons_of_pos (by decide), hfront,
      hback, String.ofList_toList]

/-- What is between the quotes is a part of the text. -/
theorem exists_unquote (s : String) :
    ∃ front back, s.toList = front ++ ((unquote s).toList ++ back) := by
  obtain ⟨back, -, hback⟩ := exists_dropEndWhile (· == '\x22') (s.toList.dropWhile (· == '\x22'))
  refine ⟨s.toList.takeWhile (· == '\x22'), back, ?_⟩
  rw [unquote, dropAround, String.toList_ofList, ← hback, List.takeWhile_append_dropWhile]

theorem unbroken_unquote {s : String} (h : Unbroken s) : Unbroken (unquote s) := by
  obtain ⟨front, back, hs⟩ := exists_unquote s
  intro c hc
  exact h c (by rw [hs]; simp [hc])

/-! ## Spaces -/

theorem Spaced.of_append {cs more : List Char} (h : Spaced (cs ++ more)) :
    Spaced cs ∧ Spaced more := by
  induction cs with
  | nil => exact ⟨.nil, h⟩
  | cons c cs ih =>
    cases h with
    | cons hc hcs =>
      refine ⟨.cons (fun hblank => ⟨(hc hblank).1, fun b hb => (hc hblank).2 b ?_⟩) (ih hcs).1,
        (ih hcs).2⟩
      exact List.head?_append.trans (by rw [hb, Option.some_or])

theorem Spaced.append {cs more : List Char} (h : Spaced cs) (hmore : Spaced more)
    (hhead : ∀ b, more.head? = some b → isBlank b = false) : Spaced (cs ++ more) := by
  induction h with
  | nil => exact hmore
  | @cons c cs hc _ ih =>
    refine .cons (fun hblank => ⟨(hc hblank).1, fun b hb => ?_⟩) ih
    cases cs with
    | nil => exact hhead b hb
    | cons _ _ => exact (hc hblank).2 b hb

theorem Spaced.append_of_unbroken {cs more : List Char} (h : ∀ c ∈ cs, isBlank c = false)
    (hmore : Spaced more) : Spaced (cs ++ more) := by
  induction cs with
  | nil => exact hmore
  | cons c cs ih =>
    obtain ⟨hc, hcs⟩ := List.forall_mem_cons.mp h
    refine .cons (fun hblank => ?_) (ih hcs)
    rw [hc] at hblank
    cases hblank

theorem spaced_of_unbroken {s : String} (h : Unbroken s) : Spaced s.toList := by
  have hspaced := Spaced.append_of_unbroken h .nil
  rwa [List.append_nil] at hspaced

theorem Spaced.feed_not_mem {cs : List Char} (h : Spaced cs) : '\n' ∉ cs := by
  induction h with
  | nil => exact List.not_mem_nil
  | cons h _ ih =>
    rw [List.mem_cons, not_or]
    refine ⟨?_, ih⟩
    rintro rfl
    exact absurd (h (by decide)).1 (by decide)

theorem head?_joinWith {w : String} (hne : w ≠ "") (rest : List String) :
    (joinWith " " (w :: rest)).toList.head? = w.toList.head? := by
  cases rest with
  | nil => rw [joinWith]
  | cons t rest =>
    rw [joinWith, String.append_assoc, String.toList_append, List.head?_append,
      Option.or_of_isSome (by simpa using hne)]

theorem toList_joinWith_cons (w t : String) (rest : List String) :
    (joinWith " " (w :: t :: rest)).toList =
      w.toList ++ ' ' :: (joinWith " " (t :: rest)).toList := by
  rw [joinWith, String.append_assoc, String.toList_append, String.toList_append]
  rfl

/-- Words that are joined have single spaces between them. -/
theorem spaced_joinWith {ws : List String} (h : ∀ w ∈ ws, Unbroken w ∧ w ≠ "") :
    Spaced (joinWith " " ws).toList := by
  induction ws with
  | nil => exact spaced_of_unbroken (s := "") (by decide)
  | cons w rest ih =>
    obtain ⟨hw, hrest⟩ := List.forall_mem_cons.mp h
    cases rest with
    | nil =>
      rw [joinWith]
      exact spaced_of_unbroken hw.1
    | cons t rest =>
      obtain ⟨ht, _⟩ := List.forall_mem_cons.mp hrest
      rw [toList_joinWith_cons]
      refine Spaced.append_of_unbroken hw.1 (.cons (fun _ => ⟨rfl, fun b hb => ?_⟩) (ih hrest))
      rw [head?_joinWith ht.2] at hb
      exact ht.1 b (List.mem_of_mem_head? hb)

theorem IsNormal.feed_not_mem {s : String} (h : IsNormal s) : '\n' ∉ s.toList := by
  have hspaced : Spaced (joinWith " " (words s)).toList :=
    spaced_joinWith fun _ hw => isWord_of_mem_words hw
  rw [IsNormal] at h
  rw [h] at hspaced
  exact hspaced.feed_not_mem

theorem spaced_unquote {s : String} (h : Spaced s.toList) : Spaced (unquote s).toList := by
  obtain ⟨front, back, hs⟩ := exists_unquote s
  rw [hs] at h
  exact h.of_append.2.of_append.1

/-- Reading words and joining them with spaces gives back what is spaced, from a word on to the end
    of one. -/
theorem joinWith_wordsFrom {cs word : List Char} (h : Spaced cs)
    (hlast : ∀ c, cs.getLast? = some c → isBlank c = false)
    (hfirst : word = [] → ∃ c, cs.head? = some c ∧ isBlank c = false) :
    (joinWith " " ((wordsFrom word cs).map String.ofList)).toList = word.reverse ++ cs := by
  induction h generalizing word with
  | nil =>
    have hword : word ≠ [] := fun hnil => by
      obtain ⟨_, hhead, _⟩ := hfirst hnil
      cases hhead
    simp [wordsFrom, flushWord, hword, joinWith]
  | @cons c cs hc _ ih =>
    have hlast' : ∀ b, cs.getLast? = some b → isBlank b = false := by
      intro b hb
      refine hlast b ?_
      rw [List.getLast?_cons, hb, Option.getD_some]
    rw [wordsFrom]
    split
    next hblank =>
      -- a word ends at a blank, and another one begins behind it
      obtain ⟨rfl, hnext⟩ := hc hblank
      have hword : word ≠ [] := fun hnil => by
        obtain ⟨_, hhead, hnot⟩ := hfirst hnil
        cases hhead
        exact absurd hnot (by decide)
      obtain ⟨b, rest, rfl⟩ : ∃ b rest, cs = b :: rest := by
        cases cs with
        | nil => exact absurd (hlast ' ' rfl) (by decide)
        | cons b rest => exact ⟨b, rest, rfl⟩
      have hjoined := @ih [] hlast' fun _ => ⟨b, rfl, hnext b rfl⟩
      have hflush : ∀ l, flushWord word l = word.reverse :: l := by
        intro l
        simp [flushWord, hword]
      rw [hflush, List.map_cons]
      cases hwords : (wordsFrom [] (b :: rest)).map String.ofList with
      | nil =>
        rw [hwords] at hjoined
        cases hjoined
      | cons w ws =>
        rw [hwords] at hjoined
        rw [toList_joinWith_cons, hjoined, String.toList_ofList]
        rfl
    next =>
      have hjoined := @ih (c :: word) hlast' fun hnil => (List.cons_ne_nil c word hnil).elim
      rw [hjoined, List.reverse_cons, List.append_assoc, List.singleton_append]

/-- The words of a spaced text in quotes are joined to it again. -/
theorem joinWith_words_inQuotes {s : String} (h : Spaced s.toList) :
    joinWith " " (words (inQuotes s)) = inQuotes s := by
  rw [← String.toList_inj, words]
  refine joinWith_wordsFrom ?_ ?_ fun _ => ⟨'\x22', by rw [toList_inQuotes]; rfl, by decide⟩
  · rw [toList_inQuotes]
    have hquote : ∀ c ∈ ['\x22'], isBlank c = false := List.forall_mem_singleton.mpr (by decide)
    have hclosing : Spaced ['\x22'] := Spaced.append_of_unbroken hquote .nil
    refine Spaced.append_of_unbroken hquote (h.append hclosing fun b hb => ?_)
    exact hquote b (List.mem_of_mem_head? hb)
  · intro c hc
    rw [toList_inQuotes, ← List.cons_append, List.getLast?_concat] at hc
    cases hc
    decide

end TrainingLab.Text
