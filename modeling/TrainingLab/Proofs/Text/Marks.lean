import TrainingLab.Device.Console
import TrainingLab.Proofs.Network.Notation
import TrainingLab.Text.Decimal

/-
  Texts without the marks that end a prompt. What is made of such texts has none either: the
  columns and lists of a table, the numbers and addresses in it, the words and lines of a text. A
  line that does have a mark is no prompt with a command behind it as long as it is indented.

  Proved:
  * `splitFirst?_of_unmarked`, `splitFirst?_at_mark`: where a text is split at its first mark.
  * `begins_up_to_mark`: what has no mark begins a text before the first mark of it, or not at all.
  * `Unmarked.logsPlain`, `logsPlain_of_indented`: the entries that a text adds to a history.
-/

namespace TrainingLab.Text

/-- A character that ends a prompt. -/
def isMark (c : Char) : Bool := c == '>' || c == '#'

/-- No character ends a prompt. -/
def Unmarked (s : String) : Prop := ∀ c ∈ s.toList, isMark c = false

instance (s : String) : Decidable (Unmarked s) :=
  inferInstanceAs (Decidable (∀ c ∈ s.toList, isMark c = false))

variable {s t : String}

/-! ## What is made of texts -/

theorem Unmarked.of_subset (h : Unmarked t) (hsub : s.toList ⊆ t.toList) : Unmarked s :=
  fun c hc => h c (hsub hc)

theorem unmarked_ofList {cs : List Char} (h : ∀ c ∈ cs, isMark c = false) :
    Unmarked (String.ofList cs) := by
  intro c hc
  rw [String.toList_ofList] at hc
  exact h c hc

/-- A fixed text is looked through. -/
theorem Unmarked.fixed {cs : List Char} (h : (cs.all fun c => !isMark c) = true) :
    Unmarked (String.ofList cs) :=
  unmarked_ofList fun c hc => by simpa using List.all_eq_true.mp h c hc

theorem Unmarked.append (hs : Unmarked s) (ht : Unmarked t) : Unmarked (s ++ t) := by
  intro c hc
  rw [String.toList_append] at hc
  rcases List.mem_append.mp hc with hc | hc
  · exact hs c hc
  · exact ht c hc

theorem unmarked_replicate (n : Nat) {c : Char} (h : isMark c = false) :
    Unmarked (String.ofList (List.replicate n c)) := by
  refine unmarked_ofList fun a ha => ?_
  rw [(List.mem_replicate.mp ha).2]
  exact h

theorem unmarked_joinWith {separator : String} (hseparator : Unmarked separator)
    {texts : List String} (h : ∀ t ∈ texts, Unmarked t) : Unmarked (joinWith separator texts) := by
  induction texts with
  | nil => exact List.forall_mem_nil _
  | cons t texts ih =>
    obtain ⟨ht, htexts⟩ := List.forall_mem_cons.mp h
    cases texts with
    | nil => exact ht
    | cons u rest => exact (ht.append hseparator).append (ih htexts)

theorem Unmarked.padRight (h : Unmarked s) (width : Nat) : Unmarked (padRight width s) :=
  h.append (unmarked_replicate _ (by decide))

theorem Unmarked.padZero (h : Unmarked s) (width : Nat) : Unmarked (padZero width s) :=
  (unmarked_replicate _ (by decide)).append h

theorem unmarked_columns {cells : List (Nat × String)} (h : ∀ cell ∈ cells, Unmarked cell.2)
    {last : String} (hlast : Unmarked last) : Unmarked (columns cells last) := by
  induction cells with
  | nil => exact hlast
  | cons cell cells ih =>
    obtain ⟨hcell, hcells⟩ := List.forall_mem_cons.mp h
    exact ((hcell.padRight cell.1).append (.fixed rfl)).append (ih hcells)

theorem isMark_of_isDigit {c : Char} (h : c.isDigit = true) : isMark c = false := by
  rw [isMark, Bool.or_eq_false_iff, beq_eq_false_iff_ne, beq_eq_false_iff_ne]
  constructor
  · rintro rfl
    exact absurd h (by decide)
  · rintro rfl
    exact absurd h (by decide)

theorem unmarked_toString (n : Nat) : Unmarked (toString n) := by
  intro c hc
  rw [toList_toString] at hc
  exact isMark_of_isDigit (isDigit_of_mem_toDigits hc)

/-! ## What texts are made of -/

theorem Unmarked.of_mem_words (h : Unmarked t) (hs : s ∈ words t) : Unmarked s := by
  obtain ⟨cs, hcs, rfl⟩ := List.mem_map.mp hs
  refine unmarked_ofList fun c hc => ?_
  exact h c (((mem_wordsFrom hcs).2 c hc).resolve_left List.not_mem_nil)

theorem Unmarked.trim (h : Unmarked s) : Unmarked (trim s) := h.of_subset (subset_trim s)

theorem subset_linesFrom {line cs : List Char} :
    ∀ w ∈ linesFrom line cs, ∀ c ∈ w, c ∈ line ∨ c ∈ cs := by
  induction cs generalizing line with
  | nil =>
    intro w hw c hc
    rw [linesFrom] at hw
    split at hw
    next => cases hw
    next =>
      rw [List.mem_singleton.mp hw] at hc
      exact Or.inl (List.mem_reverse.mp hc)
  | cons a cs ih =>
    intro w hw c hc
    rw [linesFrom] at hw
    split at hw
    next =>
      rcases List.mem_cons.mp hw with rfl | hw
      · exact Or.inl (subset_endLine line c hc)
      · exact Or.inr (List.mem_cons_of_mem a ((ih w hw c hc).resolve_left List.not_mem_nil))
    next =>
      rcases ih w hw c hc with hline | hcs
      · rcases List.mem_cons.mp hline with rfl | hline
        · exact Or.inr List.mem_cons_self
        · exact Or.inl hline
      · exact Or.inr (List.mem_cons_of_mem a hcs)

theorem Unmarked.of_mem_lines (h : Unmarked t) (hs : s ∈ lines t) : Unmarked s := by
  obtain ⟨cs, hcs, rfl⟩ := List.mem_map.mp hs
  refine unmarked_ofList fun c hc => ?_
  exact h c ((subset_linesFrom cs hcs c hc).resolve_left List.not_mem_nil)

/-! ## The first mark -/

theorem cutFirst_eq_none {p : Char → Bool} {cs : List Char} (h : ∀ c ∈ cs, p c = false) :
    cutFirst p cs = none := by
  induction cs with
  | nil => rfl
  | cons c cs ih =>
    obtain ⟨hc, hcs⟩ := List.forall_mem_cons.mp h
    rw [cutFirst, hc, if_neg Bool.false_ne_true, ih hcs, Option.map_none]

/-- What is behind the cut is the end of the text. -/
theorem suffix_of_cutFirst {p : Char → Bool} {cs a b : List Char}
    (h : cutFirst p cs = some (a, b)) : b <:+ cs := by
  induction cs generalizing a with
  | nil => cases h
  | cons c cs ih =>
    rw [cutFirst] at h
    split at h
    next =>
      cases h
      exact List.suffix_cons c _
    next =>
      obtain ⟨⟨a', b'⟩, hcut, hparts⟩ := Option.map_eq_some_iff.mp h
      cases hparts
      exact (ih hcut).trans (List.suffix_cons c cs)

theorem splitFirst?_of_unmarked (h : Unmarked s) : splitFirst? isMark s = none := by
  rw [splitFirst?, cutFirst_eq_none h, Option.map_none]

theorem splitFirst?_at_mark (hs : Unmarked s) {mark : Char} (hmark : isMark mark = true)
    (t : String) : splitFirst? isMark (s ++ String.singleton mark ++ t) = some (s, t) := by
  have hchars : (s ++ String.singleton mark ++ t).toList = s.toList ++ mark :: t.toList := by
    simp
  rw [splitFirst?, hchars, cutFirst_append hs hmark, Option.map_some]
  dsimp only
  rw [String.ofList_toList, String.ofList_toList]

/-- What has no mark begins a text before the first mark of it, or not at all. -/
theorem begins_up_to_mark {start : String} (hstart : Unmarked start) (s : String) {mark : Char}
    (hmark : isMark mark = true) (t : String) :
    begins start (s ++ String.singleton mark ++ t) = begins start (s ++ String.singleton mark) := by
  rw [Bool.eq_iff_iff]
  refine ⟨fun h => ?_, fun h => begins_append h t⟩
  rw [begins, List.isPrefixOf_iff_prefix] at h ⊢
  rw [String.toList_append] at h
  rcases List.prefix_or_prefix_of_prefix h (List.prefix_append _ t.toList) with h | h
  · exact h
  · -- a longer beginning would have the mark
    have hmem : mark ∈ start.toList := h.subset (by simp)
    rw [hstart mark hmem] at hmark
    cases hmark

/-! ## Margins -/

/-- What is behind the mark of a prompt is trimmed already, apart from the space before it. -/
theorem trim_space_trim (s : String) : trim (" " ++ trim s) = trim s := by
  have hs : (" " ++ trim s).toList = [' '] ++ ((trim s).toList ++ []) := by simp
  rw [trim_around hs (List.forall_mem_singleton.mpr (by decide)) (List.forall_mem_nil _)
    (trimmed_trim s), String.ofList_toList]

/-! ## Entries of a history -/

/-- An entry that is no prompt with a command behind it: it has no mark, or it is indented. -/
def Plain (s : String) : Prop := Unmarked s ∨ s.toList.head? = some ' '

/-- All entries that the text adds to a history are of this kind. -/
def LogsPlain (s : String) : Prop := ∀ entry ∈ logLines s, Plain entry

theorem Unmarked.logsPlain (h : Unmarked s) : LogsPlain s := by
  intro entry hentry
  unfold logLines at hentry
  split at hentry
  next =>
    rw [List.mem_singleton.mp hentry]
    exact Or.inl (.fixed rfl)
  next => exact Or.inl (h.of_mem_lines hentry)

theorem logsPlain_of_indented (h : s.toList.head? = some ' ') (hfeed : '\n' ∉ s.toList) :
    LogsPlain s := by
  intro entry hentry
  unfold logLines at hentry
  split at hentry
  next =>
    rw [List.mem_singleton.mp hentry]
    exact Or.inl (.fixed rfl)
  next hne =>
    rw [lines_of_no_feed hfeed, if_neg hne] at hentry
    rw [List.mem_singleton.mp hentry]
    exact Or.inr h

end TrainingLab.Text

namespace TrainingLab.Network

open Text

theorem unmarked_octet (n : UInt8) : Unmarked (toString n) := unmarked_toString n.toNat

theorem Address.unmarked_toText (a : Address) : Unmarked a.toText := by
  intro c hc
  rcases Address.mem_toText hc with h | rfl
  · exact isMark_of_isDigit h
  · decide

theorem Cidr.unmarked_toText (c : Cidr) : Unmarked c.toText :=
  (c.address.unmarked_toText.append (.fixed rfl)).append (unmarked_toString _)

/-- A destination is listed by its parts, or as it is. -/
theorem unmarked_networkAndMask {destination : String} (h : Unmarked destination) :
    Unmarked (networkAndMask destination).1 ∧ Unmarked (networkAndMask destination).2 := by
  unfold networkAndMask
  cases readPrefix? destination with
  | some net => exact ⟨net.address.unmarked_toText, net.mask.unmarked_toText⟩
  | none => exact ⟨h, .fixed rfl⟩

end TrainingLab.Network
