import TrainingLab.Reference
import TrainingLab.Proofs.SortedMap
import TrainingLab.Proofs.Text.Ascii
import TrainingLab.Proofs.Text.Words

/-
  Completion. What was typed behind the last space is compared in lower case with the words of the
  vocabulary, and extended by what all words on offer agree on.

  The lengths are counted in bytes of UTF-8: that of the word as it was typed, not of its lower
  case, and that of the common start, which is found byte by byte. All words are ASCII, so the
  second is a number of characters. The first is that of the lower case because no two words of a
  reference share a start with a `k`: only the Kelvin sign is in ASCII in lower case and not as it
  is typed.

  Proved:
  * `prefix_commonStart_iff`, `isCommonStart_sharedStart`: the common start is the longest one.
  * `utf8ByteSize_sharedStart`: counted byte by byte it is as long.
  * `complete_of_not_offers`, `complete_of_word`, `complete_of_several`: the outcomes.
  * `complete_complete`: completing twice is completing once.
  * `completable_ofFamily`: what this asks of the words holds in every reference.
  * `word_completion`: all of this for every family and every input.
-/

namespace TrainingLab.Reference

/-! ## The longest common start -/

/-- What begins both begins their common start. -/
theorem prefix_commonStart_iff {p as bs : List Char} :
    p <+: commonStart as bs ↔ p <+: as ∧ p <+: bs := by
  induction as generalizing p bs with
  | nil =>
    rw [commonStart]
    · constructor
      · intro h
        obtain rfl := List.prefix_nil.mp h
        exact ⟨h, List.nil_prefix⟩
      · exact And.left
    · simp
  | cons a as ih =>
    cases bs with
    | nil =>
      constructor
      · intro h
        obtain rfl := List.prefix_nil.mp h
        exact ⟨List.nil_prefix, h⟩
      · exact And.right
    | cons b bs =>
      cases p with
      | nil => simp
      | cons c p =>
        rw [commonStart, List.cons_prefix_cons, List.cons_prefix_cons]
        split
        next heq =>
          rw [← heq, List.cons_prefix_cons, ih]
          exact and_and_left
        next hne =>
          constructor
          · intro h
            cases List.prefix_nil.mp h
          · rintro ⟨⟨rfl, _⟩, rfl, _⟩
            exact absurd rfl hne

theorem commonStart_begins (as bs : List Char) :
    commonStart as bs <+: as ∧ commonStart as bs <+: bs :=
  prefix_commonStart_iff.mp (List.prefix_refl _)

theorem prefix_foldl_commonStart_iff {p start : List Char} {others : List String} :
    p <+: others.foldl (fun start w => commonStart start w.toList) start ↔
      p <+: start ∧ ∀ w ∈ others, p <+: w.toList := by
  induction others generalizing start with
  | nil => simp
  | cons w rest ih =>
    rw [List.foldl_cons, ih, prefix_commonStart_iff, List.forall_mem_cons, and_assoc]

/-- The common start of a word and of others. -/
def sharedStart (word : String) (others : List String) : String :=
  String.ofList (others.foldl (fun start w => commonStart start w.toList) word.toList)

theorem prefix_sharedStart_iff {p : List Char} {word : String} {others : List String} :
    p <+: (sharedStart word others).toList ↔ ∀ w ∈ word :: others, p <+: w.toList := by
  rw [sharedStart, String.toList_ofList, prefix_foldl_commonStart_iff, List.forall_mem_cons]

/-- The longest text that all words of the kind begin with. -/
structure IsCommonStart (P : String → Prop) (start : String) : Prop where
  common : ∀ w, P w → start.toList <+: w.toList
  longest : ∀ p : String, (∀ w, P w → p.toList <+: w.toList) → p.length ≤ start.length

theorem isCommonStart_sharedStart (word : String) (others : List String) :
    IsCommonStart (· ∈ word :: others) (sharedStart word others) where
  common := prefix_sharedStart_iff.mp (List.prefix_refl _)
  longest p hp := by
    simpa [String.length_toList] using (prefix_sharedStart_iff.mpr hp).length_le

theorem sharedStart_begins (word : String) (others : List String) :
    (sharedStart word others).toList <+: word.toList :=
  (isCommonStart_sharedStart word others).common word List.mem_cons_self

/-! ## Bytes -/

/-- The common start of a word and of others as a number of bytes, counted byte by byte. -/
def sharedBytes (word : String) (others : List String) : Nat :=
  others.foldl
    (fun n w =>
      ((((Text.bytes word).zip (Text.bytes w)).take n).takeWhile fun e => e.1 == e.2).length)
    word.utf8ByteSize

/-- In ASCII, counting the bytes that agree is counting the characters. -/
theorem length_commonStart_take {as bs : List Char} (ha : Text.IsAscii as) (hb : Text.IsAscii bs)
    (n : Nat) :
    ((((as.map fun c => UInt8.ofNat c.toNat).zip (bs.map fun c => UInt8.ofNat c.toNat)).take
      n).takeWhile fun e => e.1 == e.2).length = (commonStart (as.take n) bs).length := by
  induction as generalizing bs n with
  | nil => simp [commonStart]
  | cons a as ih =>
    cases bs with
    | nil => cases n <;> simp [commonStart]
    | cons b bs =>
      cases n with
      | zero => simp [commonStart]
      | succ n =>
        obtain ⟨ha₀, ha⟩ := List.forall_mem_cons.mp ha
        obtain ⟨hb₀, hb⟩ := List.forall_mem_cons.mp hb
        rw [List.map_cons, List.map_cons, List.zip_cons_cons, List.take_succ_cons,
          List.take_succ_cons, List.takeWhile_cons, commonStart]
        by_cases heq : a = b
        · rw [if_pos (by simp [heq]), if_pos heq, List.length_cons, List.length_cons, ih ha hb]
        · rw [if_neg heq, if_neg fun h => heq (Text.eq_of_byte_eq ha₀ hb₀ (beq_iff_eq.mp h))]
          rfl

theorem length_foldl_commonStart {word : String} {start : List Char} {others : List String}
    (hword : Text.IsAscii word.toList) (hothers : ∀ w ∈ others, Text.IsAscii w.toList)
    (hstart : start <+: word.toList) :
    others.foldl
      (fun n w =>
        ((((Text.bytes word).zip (Text.bytes w)).take n).takeWhile fun e => e.1 == e.2).length)
      start.length =
        (others.foldl (fun start w => commonStart start w.toList) start).length := by
  induction others generalizing start with
  | nil => rfl
  | cons w rest ih =>
    obtain ⟨hw, hrest⟩ := List.forall_mem_cons.mp hothers
    have hstep := (commonStart_begins start w.toList).1.trans hstart
    rw [List.foldl_cons, List.foldl_cons, Text.bytes_of_ascii hword, Text.bytes_of_ascii hw,
      length_commonStart_take hword hw, ← List.prefix_iff_eq_take.mp hstart,
      ← Text.bytes_of_ascii hword]
    exact ih hrest hstep

/-- Among words of ASCII, the common start has as many bytes as are counted byte by byte: the
    count ends behind a character. -/
theorem utf8ByteSize_sharedStart {word : String} {others : List String}
    (h : ∀ w ∈ word :: others, Text.IsAscii w.toList) :
    (sharedStart word others).utf8ByteSize = sharedBytes word others := by
  obtain ⟨hword, hothers⟩ := List.forall_mem_cons.mp h
  have hstart : Text.IsAscii (sharedStart word others).toList := fun c hc =>
    hword c ((sharedStart_begins word others).subset hc)
  rw [Text.utf8ByteSize_of_ascii hstart, sharedBytes, Text.utf8ByteSize_of_ascii hword,
    ← word.length_toList, length_foldl_commonStart hword hothers (List.prefix_refl _),
    sharedStart, String.length_ofList]

/-! ## Words on offer -/

/-- The word stands in a command of the reference. -/
def HasWord (r : Reference) (w : String) : Prop := ∃ c ∈ r.commands, w ∈ Text.words c

/-- A word that begins with what was typed, in lower case. -/
def Offers (r : Reference) (typed w : String) : Prop :=
  r.HasWord w ∧ (Text.lower typed).toList <+: w.toList

/-- The words on offer, in the order of the vocabulary. -/
def offers (r : Reference) (typed : String) : List String :=
  r.vocabulary.keys.filter fun w => Text.begins (Text.lower typed) w

variable {r : Reference} {head typed word v w : String} {others : List String}

theorem mem_vocabulary_iff : w ∈ r.vocabulary.keys ↔ r.HasWord w := by
  rw [vocabulary, SortedMap.mem_keys_ofList_iff, List.map_map]
  simp [HasWord, Function.comp_def]

theorem mem_offers_iff : w ∈ r.offers typed ↔ r.Offers typed w := by
  rw [offers, List.mem_filter, mem_vocabulary_iff, Text.begins, List.isPrefixOf_iff_prefix, Offers]

theorem offers_first (hoffers : r.offers typed = word :: others) : r.Offers typed word :=
  mem_offers_iff.mp (hoffers ▸ List.mem_cons_self)

theorem nodup_offers (r : Reference) (typed : String) : (r.offers typed).Nodup :=
  (SortedMap.nodup_keys _).filter _

theorem offers_eq_nil (h : ∀ w, ¬ r.Offers typed w) : r.offers typed = [] :=
  List.eq_nil_iff_forall_not_mem.mpr fun w hw => h w (mem_offers_iff.mp hw)

theorem offers_eq_singleton (h : ∀ v, r.Offers typed v ↔ v = w) : r.offers typed = [w] := by
  have hmem : ∀ v, v ∈ r.offers typed ↔ v = w := fun v => mem_offers_iff.trans (h v)
  have hnodup := nodup_offers r typed
  cases hoffers : r.offers typed with
  | nil => exact absurd ((hmem w).mpr rfl) (hoffers ▸ List.not_mem_nil)
  | cons word others =>
    rw [hoffers] at hmem hnodup
    obtain rfl := (hmem word).mp List.mem_cons_self
    have hnone : others = [] := List.eq_nil_iff_forall_not_mem.mpr fun v hv =>
      (List.nodup_cons.mp hnodup).1 ((hmem v).mp (List.mem_cons_of_mem _ hv) ▸ hv)
    rw [hnone]

theorem offers_of_ne (hv : r.Offers typed v) (hw : r.Offers typed w) (hne : v ≠ w) :
    ∃ word others, r.offers typed = word :: others ∧ others ≠ [] := by
  rw [← mem_offers_iff] at hv hw
  cases hoffers : r.offers typed with
  | nil => exact absurd hv (hoffers ▸ List.not_mem_nil)
  | cons word others =>
    refine ⟨word, others, rfl, ?_⟩
    rintro rfl
    rw [hoffers, List.mem_singleton] at hv hw
    exact hne (hv.trans hw.symm)

/-! ## Outcomes -/

theorem extend?_several (h : others ≠ []) :
    extend? typed (word :: others) =
      if typed.utf8ByteSize < (sharedStart word others).utf8ByteSize then
        some (sharedStart word others)
      else none := by
  cases others with
  | nil => exact absurd rfl h
  | cons => rfl

/-- Behind a space nothing is completed. -/
theorem complete_head (hhead : Text.EndsAfter ' ' head) : r.complete head = head := by
  have hsplit : Text.splitAfterLast ' ' (head ++ "") = (head, "") :=
    Text.splitAfterLast_append hhead (by simp)
  rw [String.append_empty] at hsplit
  rw [complete, hsplit]
  rfl

/-- Only what was typed behind the last space is completed. -/
theorem complete_append (hhead : Text.EndsAfter ' ' head) (htyped : ' ' ∉ typed.toList)
    (hne : typed ≠ "") :
    r.complete (head ++ typed) = head ++ (extend? typed (r.offers typed)).getD typed := by
  rw [complete, Text.splitAfterLast_append hhead htyped, offers]
  simp only [beq_iff_eq, if_neg hne]
  split
  next h => rw [h, Option.getD_some]
  next h => rw [h, Option.getD_none]

/-- The input stays, or what was typed gives way to a word and a space, or to the common start of
    several words. -/
theorem complete_cases (hhead : Text.EndsAfter ' ' head) (htyped : ' ' ∉ typed.toList) :
    r.complete (head ++ typed) = head ++ typed ∨
      (∃ word, r.complete (head ++ typed) = head ++ (word ++ " ")) ∨
      ∃ word others, r.offers typed = word :: others ∧ others ≠ [] ∧
        r.complete (head ++ typed) = head ++ sharedStart word others := by
  by_cases hne : typed = ""
  · rw [hne, String.append_empty, complete_head hhead]
    exact Or.inl rfl
  rw [complete_append hhead htyped hne]
  match r.offers typed with
  | [] => exact Or.inl rfl
  | [word] => exact Or.inr (Or.inl ⟨word, rfl⟩)
  | word :: w :: others =>
    rw [extend?_several (List.cons_ne_nil w others)]
    split
    · exact Or.inr (Or.inr ⟨word, w :: others, rfl, List.cons_ne_nil w others, rfl⟩)
    · exact Or.inl rfl

theorem complete_of_not_offers (hhead : Text.EndsAfter ' ' head) (htyped : ' ' ∉ typed.toList)
    (h : typed = "" ∨ ∀ w, ¬ r.Offers typed w) : r.complete (head ++ typed) = head ++ typed := by
  by_cases hne : typed = ""
  · rw [hne, String.append_empty, complete_head hhead]
  · rw [complete_append hhead htyped hne, offers_eq_nil (h.resolve_left hne)]
    rfl

theorem complete_of_word (hhead : Text.EndsAfter ' ' head) (htyped : ' ' ∉ typed.toList)
    (hne : typed ≠ "") (h : ∀ v, r.Offers typed v ↔ v = w) :
    r.complete (head ++ typed) = head ++ w ++ " " := by
  rw [complete_append hhead htyped hne, offers_eq_singleton h, String.append_assoc]
  rfl

/-- What completion asks of the words: lower case does not change them, and no two of them share a
    start with a `k`. -/
structure Completable (r : Reference) : Prop where
  plain : ∀ w, r.HasWord w → ∀ c ∈ w.toList, Text.isPlain c = true
  unshared : ∀ v w, r.HasWord v → r.HasWord w → v ≠ w → 'k' ∉ commonStart v.toList w.toList

theorem Completable.isAscii (h : r.Completable) (hw : r.HasWord w) : Text.IsAscii w.toList :=
  Text.isAscii_of_plain (h.plain w hw)

/-- With two words on offer, what was typed has as many bytes as its lower case. -/
theorem Completable.utf8ByteSize_lower (h : r.Completable) (hv : r.Offers typed v)
    (hw : r.Offers typed w) (hne : v ≠ w) :
    (Text.lower typed).utf8ByteSize = typed.utf8ByteSize := by
  have hascii : Text.IsAscii (Text.lower typed).toList := fun c hc =>
    h.isAscii hv.1 c (hv.2.subset hc)
  have hk : 'k' ∉ (Text.lower typed).toList := fun hk =>
    h.unshared v w hv.1 hw.1 hne ((prefix_commonStart_iff.mpr ⟨hv.2, hw.2⟩).subset hk)
  rw [Text.utf8ByteSize_of_ascii hascii, Text.utf8ByteSize_of_lower hascii hk]

theorem complete_of_several (h : r.Completable) (hhead : Text.EndsAfter ' ' head)
    (htyped : ' ' ∉ typed.toList) (hne : typed ≠ "") (hv : r.Offers typed v)
    (hw : r.Offers typed w) (hvw : v ≠ w) (hoffers : r.offers typed = word :: others)
    (hothers : others ≠ []) :
    r.complete (head ++ typed) =
      if (Text.lower typed).utf8ByteSize < (sharedStart word others).utf8ByteSize then
        head ++ sharedStart word others
      else head ++ typed := by
  rw [complete_append hhead htyped hne, hoffers, extend?_several hothers,
    h.utf8ByteSize_lower hv hw hvw]
  split <;> rfl

theorem isCommonStart_offers (hoffers : r.offers typed = word :: others) :
    IsCommonStart (r.Offers typed) (sharedStart word others) := by
  have hmem : r.Offers typed = (· ∈ word :: others) := by
    funext w
    rw [← hoffers]
    exact propext mem_offers_iff.symm
  rw [hmem]
  exact isCommonStart_sharedStart word others

/-! ## Completing twice -/

theorem plain_sharedStart (h : r.Completable) (hoffers : r.offers typed = word :: others) :
    ∀ c ∈ (sharedStart word others).toList, Text.isPlain c = true := fun c hc =>
  h.plain word (offers_first hoffers).1 c ((sharedStart_begins word others).subset hc)

/-- The common start of the words on offer has the same words on offer. -/
theorem offers_sharedStart (h : r.Completable) (hoffers : r.offers typed = word :: others) :
    r.offers (sharedStart word others) = r.offers typed := by
  have hcommon := isCommonStart_offers hoffers
  have hlower : Text.lower (sharedStart word others) = sharedStart word others := by
    rw [← (sharedStart word others).ofList_toList]
    exact Text.lower_of_plain (plain_sharedStart h hoffers)
  have htyped : (Text.lower typed).toList <+: (sharedStart word others).toList :=
    prefix_sharedStart_iff.mpr fun w hw => (mem_offers_iff.mp (hoffers ▸ hw)).2
  refine List.filter_congr fun w hw => ?_
  rw [hlower, Bool.eq_iff_iff, Text.begins, Text.begins, List.isPrefixOf_iff_prefix,
    List.isPrefixOf_iff_prefix]
  exact ⟨htyped.trans, fun hbegins => hcommon.common w ⟨mem_vocabulary_iff.mp hw, hbegins⟩⟩

theorem space_not_mem_sharedStart (hoffers : r.offers typed = word :: others) :
    ' ' ∉ (sharedStart word others).toList := by
  obtain ⟨_, _, hmem⟩ := (offers_first hoffers).1
  intro hspace
  have hblank := Text.not_blank_of_mem_words hmem ' '
    ((sharedStart_begins word others).subset hspace)
  exact absurd hblank (by decide)

theorem complete_sharedStart (h : r.Completable) (hhead : Text.EndsAfter ' ' head)
    (hoffers : r.offers typed = word :: others) (hothers : others ≠ []) :
    r.complete (head ++ sharedStart word others) = head ++ sharedStart word others := by
  by_cases hempty : sharedStart word others = ""
  · rw [hempty, String.append_empty, complete_head hhead]
  · have hspace := space_not_mem_sharedStart hoffers
    rw [complete_append hhead hspace hempty, offers_sharedStart h hoffers, hoffers,
      extend?_several hothers, if_neg (Nat.lt_irrefl _)]
    rfl

theorem complete_complete (h : r.Completable) (input : String) :
    r.complete (r.complete input) = r.complete input := by
  obtain ⟨head, typed, rfl, hhead, htyped⟩ := Text.exists_splitAfterLast ' ' input
  rcases complete_cases hhead htyped with
    hsame | ⟨word, hword⟩ | ⟨word, others, hoffers, hothers, hstart⟩
  · rw [hsame, hsame]
  · -- the word has a space behind it, so nothing is typed any more
    rw [hword]
    exact complete_head (Or.inr (by simp))
  · rw [hstart, complete_sharedStart h hhead hoffers hothers]

/-! ## The five references -/

/-- The texts are made of the characters. -/
def Spells (css : List (List Char)) (texts : List String) : Prop := texts = css.map String.ofList

theorem Spells.nil : Spells [] [] := rfl

theorem Spells.cons {cs : List Char} {css : List (List Char)} {texts : List String}
    (h : Spells css texts) : Spells (cs :: css) (String.ofList cs :: texts) :=
  congrArg (String.ofList cs :: ·) h

theorem Spells.append {as bs : List Char} {css : List (List Char)} {texts : List String}
    (h : Spells css texts) :
    Spells ((as ++ bs) :: css) ((String.ofList as ++ String.ofList bs) :: texts) := by
  rw [← String.ofList_append]
  exact h.cons

theorem toList_mem_of_hasWord {css : List (List Char)} (h : Spells css r.commands)
    (hw : r.HasWord w) : w.toList ∈ css.flatMap (Text.wordsFrom []) := by
  obtain ⟨c, hc, hmem⟩ := hw
  rw [h] at hc
  obtain ⟨cs, hcs, rfl⟩ := List.mem_map.mp hc
  rw [Text.words, String.toList_ofList] at hmem
  obtain ⟨chars, hchars, rfl⟩ := List.mem_map.mp hmem
  rw [String.toList_ofList]
  exact List.mem_flatMap.mpr ⟨cs, hcs, hchars⟩

/-- The words among them that have a `k`. -/
def withK (ws : List (List Char)) : List (List Char) := ws.filter (·.contains 'k')

theorem completable_of_spells {css : List (List Char)} (h : Spells css r.commands)
    (hplain : ∀ w ∈ css.flatMap (Text.wordsFrom []), w.all Text.isPlain = true)
    (hshared : ∀ v ∈ withK (css.flatMap (Text.wordsFrom [])),
      ∀ w ∈ withK (css.flatMap (Text.wordsFrom [])), 'k' ∈ commonStart v w → v = w) :
    r.Completable where
  plain w hw := List.all_eq_true.mp (hplain w.toList (toList_mem_of_hasWord h hw))
  unshared v w hv hw hne hk := by
    obtain ⟨hkv, hkw⟩ := commonStart_begins v.toList w.toList
    have hwithK : ∀ u, r.HasWord u → 'k' ∈ u.toList →
        u.toList ∈ withK (css.flatMap (Text.wordsFrom [])) := fun u hu hk =>
      List.mem_filter.mpr ⟨toList_mem_of_hasWord h hu, List.contains_iff_mem.mpr hk⟩
    exact hne (String.toList_inj.mp
      (hshared _ (hwithK v hv (hkv.subset hk)) _ (hwithK w hw (hkw.subset hk)) hk))

theorem completable_ofFamily (f : Family) : (ofFamily f).Completable := by
  cases f
  all_goals
    apply completable_of_spells
    case h =>
      simp only [ofFamily, ios, junos, fortiOs, panOs, cloudConsole, commands, List.flatMap_cons,
        List.flatMap_nil, List.cons_append, List.nil_append, List.append_nil]
      repeat apply Spells.cons
      exact .nil
    case hplain => decide +kernel
    case hshared => decide +kernel

/-! ## Every input -/

/-- What becomes of an input that is cut behind its last space. -/
structure Completes (r : Reference) (head typed output : String) : Prop where
  kept : ∃ rest, output = head ++ rest
  unchanged : (typed = "" ∨ ∀ w, ¬ r.Offers typed w) → output = head ++ typed
  single : ∀ w, typed ≠ "" → (∀ v, r.Offers typed v ↔ v = w) → output = head ++ w ++ " "
  several : ∀ v w, typed ≠ "" → r.Offers typed v → r.Offers typed w → v ≠ w →
    ∃ word others start more, r.offers typed = word :: others ∧
      -- counted byte by byte, the common start ends behind a character of the first word
      word = start ++ more ∧ start.utf8ByteSize = sharedBytes word others ∧
      IsCommonStart (r.Offers typed) start ∧
      output = if (Text.lower typed).utf8ByteSize < start.utf8ByteSize then head ++ start
        else head ++ typed

theorem completes_complete (h : r.Completable) (hhead : Text.EndsAfter ' ' head)
    (htyped : ' ' ∉ typed.toList) : r.Completes head typed (r.complete (head ++ typed)) where
  kept := by
    rcases complete_cases hhead htyped with hsame | ⟨word, hword⟩ | ⟨_, _, _, _, hstart⟩
    · exact ⟨_, hsame⟩
    · exact ⟨_, hword⟩
    · exact ⟨_, hstart⟩
  unchanged := complete_of_not_offers hhead htyped
  single _ := complete_of_word hhead htyped
  several v w hne hv hw hvw := by
    obtain ⟨word, others, hoffers, hothers⟩ := offers_of_ne hv hw hvw
    have hascii : ∀ u ∈ word :: others, Text.IsAscii u.toList := fun u hu =>
      h.isAscii (mem_offers_iff.mp (hoffers ▸ hu)).1
    obtain ⟨more, hmore⟩ := sharedStart_begins word others
    refine ⟨word, others, sharedStart word others, String.ofList more, hoffers, ?_,
      utf8ByteSize_sharedStart hascii, isCommonStart_offers hoffers,
      complete_of_several h hhead htyped hne hv hw hvw hoffers hothers⟩
    rw [← String.toList_inj, String.toList_append, String.toList_ofList, hmore]

/-- **Completion.** For every family and every input, what stands up to the last space is kept. If
    nothing is typed behind it, or no word of the vocabulary begins with the lower case of that, the
    input stays. If a single word does, it takes the place of what was typed, with a space behind
    it. If several do, their longest common start takes that place if it is longer than the lower
    case of what was typed. Completing the result again changes nothing. -/
theorem word_completion (f : Family) (input : String) :
    ∃ head typed, input = head ++ typed ∧ Text.EndsAfter ' ' head ∧ ' ' ∉ typed.toList ∧
      (ofFamily f).Completes head typed ((ofFamily f).complete input) ∧
      (ofFamily f).complete ((ofFamily f).complete input) = (ofFamily f).complete input := by
  obtain ⟨head, typed, rfl, hhead, htyped⟩ := Text.exists_splitAfterLast ' ' input
  exact ⟨head, typed, rfl, hhead, htyped,
    completes_complete (completable_ofFamily f) hhead htyped,
    complete_complete (completable_ofFamily f) _⟩

example : (ofFamily .cloud).complete "SHOW a" = "SHOW arp " := by cbv

end TrainingLab.Reference
