import TrainingLab.Tutor.Offline
import TrainingLab.Proofs.Reference
import TrainingLab.Proofs.SortedMap

/-
  The quizzes of the tutor that needs no language model. Whatever the topic is, its words and its
  length only choose: a command that one vendor has alone, a term of the glossary, and a vendor.
  There is always something to choose, and the options beside the answer are other ones.

  The prompt of Junos has two lines. Among the options it stands in one, with a space for the line
  break.

  Proved:
  * `isFirstSentence_firstSentence`: where a text is cut.
  * `vendorQuestion?_eq_some`, `glossaryQuestion?_eq_some`, `promptQuestion?_eq_some`: for all words
    and every seed there is a question of each kind, and what it asks.
  * `quiz_three_questions`: a quiz about any topic.
  * `juniper_prompt_in_one_line`: an answer that is not the prompt itself.
-/

namespace TrainingLab.Tutor

/-- There are four different options, and the answer is one of them. -/
structure Question.WellPosed (q : Question) : Prop where
  four : q.options.length = 4
  different : q.options.Nodup
  answered : q.answer ∈ q.options

/-! ## Commands that only one vendor has -/

/-- Asks for the vendor of a command that no other vendor of the quiz has. -/
structure AsksVendor (q : Question) (v : Vendor) (command : String) : Prop where
  asked : q.question = "Which vendor uses the command \x60" ++ command ++ "\x60?"
  answer : q.answer = v.name
  vendor : v ∈ quizVendors
  only : ∀ w ∈ quizVendors, command ∈ commandsOf w ↔ w = v

/-- Only the vendor that a unique command comes with has it. -/
theorem only_of_mem_uniqueCommands {v : Vendor} {command : String}
    (h : (v, command) ∈ uniqueCommands) :
    v ∈ quizVendors ∧ ∀ w ∈ quizVendors, command ∈ commandsOf w ↔ w = v := by
  obtain ⟨hmem, hone⟩ := List.mem_filter.mp h
  obtain ⟨v', hv, hpair⟩ := List.mem_flatMap.mp hmem
  obtain ⟨c, hc, heq⟩ := List.mem_map.mp hpair
  cases heq
  refine ⟨hv, fun w hw => ⟨fun hwc => ?_, fun heq => heq ▸ hc⟩⟩
  obtain ⟨u, hu⟩ := List.length_eq_one_iff.mp (beq_iff_eq.mp hone)
  have hlists : ∀ x ∈ quizVendors, command ∈ commandsOf x → x = u := fun x hx hxc =>
    List.mem_singleton.mp (hu ▸ List.mem_filter.mpr ⟨hx, List.contains_iff_mem.mpr hxc⟩)
  exact (hlists w hw hwc).trans (hlists v hv hc).symm

theorem uniqueCommands_ne_nil : uniqueCommands ≠ [] := by decide

/-- A choice from a list that is not empty: the first that fits, or one at a position. -/
theorem exists_mem_choice {α : Type} {l : List α} (h : l ≠ []) (p : α → Bool) (n : Nat) :
    ∃ x ∈ l, (l.find? p).or l[n % l.length]? = some x := by
  cases hfind : l.find? p with
  | some x => exact ⟨x, List.mem_of_find?_eq_some hfind, rfl⟩
  | none =>
    have hlt : n % l.length < l.length := Nat.mod_lt n (List.length_pos_iff.mpr h)
    exact ⟨_, List.getElem_mem hlt, List.getElem?_eq_getElem hlt⟩

theorem vendorQuestion?_eq_some (words : List String) (seed : Nat) :
    ∃ q v command, vendorQuestion? words seed = some q ∧ q.WellPosed ∧ AsksVendor q v command := by
  obtain ⟨⟨v, command⟩, hmem, hchosen⟩ := exists_mem_choice uniqueCommands_ne_nil
    (fun unique => words.any fun w => Text.contains w unique.2) seed
  obtain ⟨hv, honly⟩ := only_of_mem_uniqueCommands hmem
  refine ⟨_, v, command, congrArg (Option.map _) hchosen, ⟨rfl, ?_, ?_⟩, ⟨rfl, rfl, hv, honly⟩⟩
  · show (quizVendors.map Vendor.name).Nodup
    decide
  · exact List.mem_map_of_mem hv

/-! ## Terms of the glossary -/

/-- The text goes up to the first point that a space follows. -/
structure IsFirstSentence (sentence text : List Char) : Prop where
  ends : ∃ rest, sentence.getLast? = some '.' ∧ text = sentence ++ ' ' :: rest
  first : ¬ ['.', ' '] <:+: sentence

theorem firstSentence_cons_cases (c : Char) (cs : List Char) :
    (∃ rest, c = '.' ∧ cs = ' ' :: rest ∧ firstSentence (c :: cs) = ['.']) ∨
      (¬ ['.', ' '] <+: c :: cs ∧ firstSentence (c :: cs) = c :: firstSentence cs) := by
  rw [firstSentence.eq_def]
  split
  next h => cases h
  next rest h =>
    cases h
    exact Or.inl ⟨rest, rfl, rfl, rfl⟩
  next c' cs' hne h =>
    cases h
    refine Or.inr ⟨fun ⟨rest, hrest⟩ => ?_, rfl⟩
    obtain ⟨hpoint, hspace⟩ := List.cons_eq_cons.mp hrest
    exact hne rest hpoint.symm hspace.symm

/-- The first sentence begins the text. -/
theorem firstSentence_begins (cs : List Char) : firstSentence cs <+: cs := by
  induction cs with
  | nil => exact List.nil_prefix
  | cons c cs ih =>
    rcases firstSentence_cons_cases c cs with ⟨rest, rfl, rfl, hcut⟩ | ⟨_, hkept⟩
    · rw [hcut]
      exact ⟨' ' :: rest, rfl⟩
    · rw [hkept]
      exact List.cons_prefix_cons.mpr ⟨rfl, ih⟩

theorem firstSentence_first (cs : List Char) : ¬ ['.', ' '] <:+: firstSentence cs := by
  induction cs with
  | nil => exact fun h => nomatch List.infix_nil.mp h
  | cons c cs ih =>
    rcases firstSentence_cons_cases c cs with ⟨rest, rfl, rfl, hcut⟩ | ⟨hnone, hkept⟩
    · rw [hcut]
      exact fun h => absurd h.length_le (by decide)
    · rw [hkept, List.infix_cons_iff, not_or]
      refine ⟨fun h => hnone (h.trans ?_), ih⟩
      exact List.cons_prefix_cons.mpr ⟨rfl, firstSentence_begins cs⟩

/-- If a text has more than its first sentence, a point ends that, and a space follows. -/
theorem isFirstSentence_firstSentence {cs : List Char} (h : firstSentence cs ≠ cs) :
    IsFirstSentence (firstSentence cs) cs where
  first := firstSentence_first cs
  ends := by
    induction cs with
    | nil => exact absurd rfl h
    | cons c cs ih =>
      rcases firstSentence_cons_cases c cs with ⟨rest, rfl, rfl, hcut⟩ | ⟨_, hkept⟩
      · rw [hcut]
        exact ⟨rest, rfl, rfl⟩
      · rw [hkept] at h ⊢
        obtain ⟨rest, hpoint, hrest⟩ := ih fun heq => h (congrArg (c :: ·) heq)
        refine ⟨rest, ?_, congrArg (c :: ·) hrest⟩
        rw [List.getLast?_cons, hpoint]
        rfl

/-- Asks for the statement about a term of the glossary, the first sentence about it. -/
structure AsksTerm (q : Question) (term text : String) : Prop where
  asked : q.question = "Which statement about " ++ Text.upper term ++ " is correct?"
  entry : glossary.find? term = some text
  answer : IsFirstSentence q.answer.toList text.toList

/-- The first sentences about the terms. -/
def statements : List String :=
  glossary.values.map fun text => String.ofList (firstSentence text.toList)

theorem statement?_eq (position : Nat) : statement? position = statements[position]? := by
  rw [statement?, statements, List.getElem?_map]

/-- What the questions ask of the glossary: enough terms to go on by threes, no statement about two
    of them, and more to say than the statement. -/
structure Separate : Prop where
  size : glossary.entries.length = 14
  nodup : statements.Nodup
  cut : ∀ text ∈ glossary.values, firstSentence text.toList ≠ text.toList

theorem separate_of_spells {css : List (List Char)} (h : Reference.Spells css glossary.values)
    (hsize : css.length = 14) (hnodup : (css.map firstSentence).Nodup)
    (hcut : ∀ cs ∈ css, firstSentence cs ≠ cs) : Separate where
  size := by
    have hlength := congrArg List.length h
    rwa [SortedMap.values, List.length_map, List.length_map, hsize] at hlength
  nodup := by
    have hstatements : statements = (css.map firstSentence).map String.ofList := by
      rw [statements, h, List.map_map, List.map_map]
      simp [Function.comp_def]
    rw [hstatements]
    exact List.pairwise_map.mpr (hnodup.imp fun hne heq => hne (String.ofList_inj.mp heq))
  cut := by
    intro text htext
    rw [h] at htext
    obtain ⟨cs, hcs, rfl⟩ := List.mem_map.mp htext
    rw [String.toList_ofList]
    exact hcut cs hcs

theorem separate : Separate := by
  apply separate_of_spells
  case h =>
    rw [SortedMap.values, glossary, SortedMap.entries_ofList]
    · simp only [List.map_cons, List.map_nil]
      repeat apply Reference.Spells.append
      exact .nil
    · decide
  case hsize => rfl
  case hnodup => decide
  case hcut => decide

theorem length_statements : statements.length = 14 := by
  rw [statements, SortedMap.values, List.length_map, List.length_map, separate.size]

/-- Statements about different terms that are there are different, one for each. -/
theorem statements_of_positions {positions : List Nat} (hnodup : positions.Nodup)
    (hlt : ∀ i ∈ positions, i < statements.length) :
    (positions.filterMap statement?).length = positions.length ∧
      (positions.filterMap statement?).Nodup := by
  constructor
  · rw [List.filterMap_length_eq_length]
    intro i hi
    rw [statement?_eq, List.getElem?_eq_getElem (hlt i hi)]
    rfl
  · rw [List.Nodup, List.pairwise_filterMap]
    refine hnodup.imp_of_mem fun {i j} hi _ hne b hb b' hb' heq => hne ?_
    rw [statement?_eq] at hb hb'
    exact (List.getElem?_inj (hlt i hi) separate.nodup).mp (by rw [hb, hb', heq])

theorem rotate_perm {α : Type} (n : Nat) (l : List α) : (rotate n l).Perm l := by
  have h : (rotate n l).Perm (l.take n ++ l.drop n) := List.perm_append_comm
  rwa [List.take_append_drop] at h

/-- The terms that options are about, from a position on by threes. -/
def optionPositions (position : Nat) : List Nat :=
  (List.range 4).map fun i => (position + 3 * i) % 14

theorem optionPositions_eq {position : Nat} (h : position < 14) :
    optionPositions position =
      [position, (position + 3) % 14, (position + 6) % 14, (position + 9) % 14] := by
  have hfirst : position % 14 = position := Nat.mod_eq_of_lt h
  simp [optionPositions, List.range, List.range.loop, hfirst]

theorem nodup_optionPositions {position : Nat} (h : position < 14) :
    (optionPositions position).Nodup := by
  rw [optionPositions_eq h]
  simp only [List.nodup_cons, List.mem_cons, List.not_mem_nil, or_false, not_or, not_false_eq_true,
    List.nodup_nil, and_true]
  omega

/-- A term that is one of the words, or one at a position. -/
theorem position_lt {α : Type} {l : List α} (h : l ≠ []) (p : α → Bool) (n : Nat) :
    (l.findIdx? p).getD (n % l.length) < l.length := by
  cases hfind : l.findIdx? p with
  | some i => exact (List.findIdx?_eq_some_iff_getElem.mp hfind).1
  | none => exact Nat.mod_lt n (List.length_pos_iff.mpr h)

theorem glossaryQuestion?_eq_some (words : List String) (seed : Nat) :
    ∃ q term text, glossaryQuestion? words seed = some q ∧ q.WellPosed ∧ AsksTerm q term text := by
  have hsize : glossary.keys.length = 14 := by
    rw [SortedMap.keys, List.length_map, separate.size]
  have hposition := position_lt (List.ne_nil_of_length_eq_add_one hsize) words.contains seed
  generalize hchosen : (glossary.keys.findIdx? words.contains).getD
    (seed % glossary.keys.length) = position at hposition
  rw [hsize] at hposition
  obtain ⟨⟨term, text⟩, hentry⟩ : ∃ entry, glossary.entries[position]? = some entry :=
    ⟨_, List.getElem?_eq_getElem (separate.size.symm ▸ hposition)⟩
  have hmem : (term, text) ∈ glossary.entries := List.mem_of_getElem? hentry
  have hstatement :
      statement? position = some (String.ofList (firstSentence text.toList)) := by
    rw [statement?, SortedMap.values, List.getElem?_map, hentry]
    rfl
  have hoptions : (List.range 4).filterMap (fun i =>
      statement? ((position + 3 * i) % glossary.keys.length)) =
        (optionPositions position).filterMap statement? := by
    rw [optionPositions, List.filterMap_map, hsize]
    rfl
  have hhead : ((optionPositions position).filterMap statement?).head? =
      some (String.ofList (firstSentence text.toList)) := by
    rw [optionPositions_eq hposition, List.filterMap_cons_some hstatement]
    rfl
  obtain ⟨hlength, hnodup⟩ := statements_of_positions (nodup_optionPositions hposition)
    (by simp [optionPositions, length_statements, Nat.mod_lt])
  have hquestion : glossaryQuestion? words seed = some
      { question := "Which statement about " ++ Text.upper term ++ " is correct?"
        options := rotate (seed % ((optionPositions position).filterMap statement?).length)
          ((optionPositions position).filterMap statement?)
        answer := String.ofList (firstSentence text.toList)
        explanation := text } := by
    simp only [glossaryQuestion?, hchosen, hentry, hoptions, hhead, Option.map_some]
  refine ⟨_, term, text, hquestion, ⟨?_, ?_, ?_⟩, ⟨rfl, SortedMap.mem_entries_iff.mp hmem, ?_⟩⟩
  · rw [(rotate_perm _ _).length_eq, hlength]
    rfl
  · exact (rotate_perm _ _).nodup_iff.mpr hnodup
  · exact (rotate_perm _ _).mem_iff.mpr (List.mem_of_mem_head? hhead)
  · rw [String.toList_ofList]
    exact isFirstSentence_firstSentence (separate.cut text (List.mem_map_of_mem hmem))

/-! ## Prompts -/

/-- Asks for the prompt of a vendor's router while it is being configured, in one line. -/
structure AsksPrompt (q : Question) (v : Vendor) : Prop where
  asked : q.question =
    "Which prompt does a " ++ v.name ++ " device named R1 show while it is being configured?"
  vendor : v ∈ quizVendors
  answer : q.answer.toList =
    (configuredRouter v).prompt.toList.map fun c => if c = '\n' then ' ' else c
  /-- Only the prompt of Junos has a line break. -/
  same : v ≠ .juniper → q.answer = (configuredRouter v).prompt

theorem nodup_configuredPrompts : (quizVendors.map configuredPrompt).Nodup := by decide

theorem configuredPrompt_eq :
    ∀ v ∈ quizVendors, v ≠ .juniper → configuredPrompt v = (configuredRouter v).prompt := by
  decide

theorem promptQuestion?_eq_some (seed : Nat) :
    ∃ q v, promptQuestion? seed = some q ∧ q.WellPosed ∧ AsksPrompt q v := by
  have hlt : seed % quizVendors.length < quizVendors.length := Nat.mod_lt seed (by decide)
  have hv := List.getElem_mem hlt
  refine ⟨_, quizVendors[seed % quizVendors.length],
    by rw [promptQuestion?, List.getElem?_eq_getElem hlt]; rfl,
    ⟨rfl, nodup_configuredPrompts, List.mem_map_of_mem hv⟩, ⟨rfl, hv, ?_, ?_⟩⟩
  · exact String.toList_ofList
  · exact configuredPrompt_eq _ hv

/-! ## Quizzes -/

theorem Question.WellPosed.isValid {q : Question} (h : q.WellPosed) : q.isValid = true :=
  List.contains_iff_mem.mpr h.answered

/-- Questions whose answers are among their options make a quiz. -/
theorem checkQuiz_eq_ok {questions : List Question} (hne : questions ≠ [])
    (h : ∀ q ∈ questions, q.WellPosed) : checkQuiz questions = .ok questions := by
  have hnone : questions.find? (fun q => !q.isValid) = none := by
    rw [List.find?_eq_none]
    intro q hq
    simp [(h q hq).isValid]
  rw [checkQuiz, if_neg (by simpa using hne), hnone]

/-- The three questions of a quiz, in their order. -/
theorem quiz_eq_ok {topic : String} {first second third : Question}
    (hfirst : vendorQuestion? (topicWords topic) topic.utf8ByteSize = some first)
    (hsecond : glossaryQuestion? (topicWords topic) topic.utf8ByteSize = some second)
    (hthird : promptQuestion? topic.utf8ByteSize = some third)
    (h : ∀ q ∈ [first, second, third], q.WellPosed) : quiz topic = .ok [first, second, third] := by
  rw [quiz, hfirst, hsecond, hthird]
  exact checkQuiz_eq_ok (List.cons_ne_nil _ _) h

/-- **Quizzes.** About every topic there is a quiz of three questions, each with four different
    options and the answer among them. The answer to the first one is the only vendor of the quiz
    that has the quoted command, the answer to the second one is the first sentence of what the
    glossary says about the term, and the answer to the third one is the prompt of the vendor's
    router while it is being configured, with a space for its line break. -/
theorem quiz_three_questions (topic : String) :
    ∃ first second third : Question,
      quiz topic = .ok [first, second, third] ∧
      (∀ q ∈ [first, second, third], q.WellPosed) ∧
      (∃ v command, AsksVendor first v command) ∧
      (∃ term text, AsksTerm second term text) ∧
      ∃ v, AsksPrompt third v := by
  obtain ⟨first, v, command, hfirst, hposed₁, hvendor⟩ :=
    vendorQuestion?_eq_some (topicWords topic) topic.utf8ByteSize
  obtain ⟨second, term, text, hsecond, hposed₂, hterm⟩ :=
    glossaryQuestion?_eq_some (topicWords topic) topic.utf8ByteSize
  obtain ⟨third, w, hthird, hposed₃, hprompt⟩ := promptQuestion?_eq_some topic.utf8ByteSize
  have hposed : ∀ q ∈ [first, second, third], q.WellPosed := by
    simp only [List.forall_mem_cons]
    exact ⟨hposed₁, hposed₂, hposed₃, fun _ hq => nomatch hq⟩
  exact ⟨first, second, third, quiz_eq_ok hfirst hsecond hthird hposed, hposed,
    ⟨v, command, hvendor⟩, ⟨term, text, hterm⟩, w, hprompt⟩

/-- In a quiz about a topic of one byte, the answer to the question about Juniper is not the prompt:
    that has a line break. -/
theorem juniper_prompt_in_one_line :
    (∃ first second third : Question,
      quiz "x" = .ok [first, second, third] ∧
      third.question =
        "Which prompt does a Juniper device named R1 show while it is being configured?" ∧
      third.answer = "[edit] root@R1#") ∧
    (configuredRouter .juniper).prompt = "[edit]\nroot@R1#" := by
  obtain ⟨first, _, _, hfirst, hposed₁, _⟩ := vendorQuestion?_eq_some (topicWords "x") 1
  obtain ⟨second, _, _, hsecond, hposed₂, _⟩ := glossaryQuestion?_eq_some (topicWords "x") 1
  obtain ⟨third, _, hthird, hposed₃, _⟩ := promptQuestion?_eq_some 1
  have hquiz : quiz "x" = .ok [first, second, third] := by
    refine quiz_eq_ok hfirst hsecond hthird ?_
    simp only [List.forall_mem_cons]
    exact ⟨hposed₁, hposed₂, hposed₃, fun _ hq => nomatch hq⟩
  refine ⟨⟨first, second, third, hquiz, ?_⟩, by decide⟩
  cases hthird
  decide

end TrainingLab.Tutor
