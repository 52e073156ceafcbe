import TrainingLab.Proofs.Grammar.Alignment
import TrainingLab.Proofs.Text.Case

/-
  The matcher finds the preferred alignment. `align_cons` gives one equation for keywords and
  typed placeholders: take a word, and if that fails and is allowed leave the element out, with
  the captures that the trial has left. Completeness (`isFull_of_alignment`) asks nothing of the
  captures; that they hold the bindings and nothing else (`align_full_iff`) needs names that are
  distinct and not in use.
-/

namespace TrainingLab.Grammar

/-! ## One element -/

theorem abbreviates_iff {token word : String} :
    abbreviates token word = true ↔
      Text.lower token ≠ "" ∧ (Text.lower token).toList <+: word.toList := by
  unfold abbreviates Text.begins
  rw [Bool.and_eq_true, bne_iff_ne, List.isPrefixOf_iff_prefix, ne_eq, ne_eq,
    Text.lower_eq_empty_iff]

namespace Element

/-- The test that the matcher makes of a word. -/
def accepts : Element → String → Bool
  | keyword word _, token => abbreviates token word
  | argument _ kind _, token => kind.accepts token
  | rest _ _, _ => false

theorem accepts_iff {e : Element} {token : String} : e.accepts token = true ↔ e.Takes token := by
  cases e with
  | keyword word optional => exact abbreviates_iff
  | argument name kind optional => exact Iff.rfl
  | rest name optional => simp [accepts, Takes]

/-- The captures while the element has the word. -/
def hold (e : Element) (token : String) (caps : Captures) : Captures :=
  match e with
  | argument name _ _ => caps.insert name token
  | _ => caps

/-- The captures after a trial of the element. -/
def release (e : Element) (caps : Captures) : Captures :=
  match e with
  | argument name _ _ => caps.erase name
  | _ => caps

theorem hold_eq_insertAll (e : Element) (token : String) (caps : Captures) :
    e.hold token caps = caps.insertAll (e.binds token) := by
  cases e <;> rfl

end Element

/-- The trial of an element that takes one word. -/
def takeWord (e : Element) (es : List Element) (caps : Captures) : List String → Attempt
  | [] => (if e.isOptional then .none else .incomplete, caps)
  | token :: tokens =>
    if e.accepts token then
      let taken := align es tokens (e.hold token caps)
      (taken.1, e.release taken.2)
    else (.none, caps)

/-- A trial, and after it the attempt to do without the element if that is allowed and needed. -/
def orSkip (optional : Bool) (taken : Attempt) (skip : Captures → Attempt) : Attempt :=
  if optional && !taken.1.isFull then (taken.1.or (skip taken.2).1, (skip taken.2).2) else taken

theorem align_cons {e : Element} (he : e.isRest = false) (es : List Element)
    (tokens : List String) (caps : Captures) :
    align (e :: es) tokens caps =
      orSkip e.isOptional (takeWord e es caps tokens) (align es tokens) := by
  cases e with
  | keyword word optional => cases tokens <;> rfl
  | argument name kind optional => cases tokens <;> rfl
  | rest name optional => cases he

theorem align_rest_nil (name : String) (optional : Bool) (es : List Element) (caps : Captures) :
    align (.rest name optional :: es) [] caps =
      if optional then align es [] caps else (.incomplete, caps) := rfl

theorem align_rest_cons (name : String) (optional : Bool) (es : List Element)
    {tokens : List String} (h : tokens ≠ []) (caps : Captures) :
    align (.rest name optional :: es) tokens caps =
      ((align es [] (caps.insert name (Text.joinWith " " tokens))).1,
        (align es [] (caps.insert name (Text.joinWith " " tokens))).2.erase name) := by
  cases tokens with
  | nil => exact absurd rfl h
  | cons token tokens => rfl

/-- An element that may not be left out takes a word that it accepts. -/
theorem align_of_accepts {e : Element} (ho : e.isOptional = false) {token : String}
    (h : e.accepts token = true) (es : List Element) (tokens : List String) (caps : Captures) :
    (align (e :: es) (token :: tokens) caps).1 = (align es tokens (e.hold token caps)).1 := by
  rw [align_cons (Element.isRest_of_takes (Element.accepts_iff.mp h)), ho, takeWord, if_pos h]
  rfl

theorem align_keyword {token word : String} (h : abbreviates token word = true)
    (es : List Element) (tokens : List String) (caps : Captures) :
    (align (.keyword word false :: es) (token :: tokens) caps).1 = (align es tokens caps).1 :=
  align_of_accepts (e := .keyword word false) rfl h es tokens caps

theorem align_argument {kind : ArgumentKind} {token : String} (h : kind.accepts token = true)
    (name : String) (es : List Element) (tokens : List String) (caps : Captures) :
    (align (.argument name kind false :: es) (token :: tokens) caps).1 =
      (align es tokens (caps.insert name token)).1 :=
  align_of_accepts (e := .argument name kind false) rfl h es tokens caps

theorem align_nil (caps : Captures) : (align [] [] caps).1 = .full caps := rfl

theorem Match.isFull_iff {m : Match} : m.isFull = true ↔ ∃ c, m = .full c := by
  cases m <;> simp [Match.isFull]

theorem Match.or_full_iff {m m' : Match} {c : Captures} :
    m.or m' = .full c ↔ m = .full c ∨ (m.isFull = false ∧ m' = .full c) := by
  cases m <;> cases m' <;> simp [Match.or, Match.isFull]

theorem Match.or_incomplete_iff {m m' : Match} :
    m.or m' = .incomplete ↔
      (m.or m').isFull = false ∧ (m = .incomplete ∨ m' = .incomplete) := by
  cases m <;> cases m' <;> simp [Match.or, Match.isFull]

theorem orSkip_full_iff {optional : Bool} {taken : Attempt} {skip : Captures → Attempt}
    {c : Captures} :
    (orSkip optional taken skip).1 = .full c ↔
      taken.1 = .full c ∨
        (optional = true ∧ taken.1.isFull = false ∧ (skip taken.2).1 = .full c) := by
  unfold orSkip
  cases optional with
  | false => simp
  | true =>
    cases hf : taken.1.isFull with
    | true =>
      obtain ⟨c', hc'⟩ := Match.isFull_iff.mp hf
      simp [hc']
    | false =>
      simp only [Bool.not_false, Bool.and_true, if_true, Match.or_full_iff, hf, true_and]

/-- A last placeholder that may be left out takes a last word that it accepts. -/
theorem align_last_option {kind : ArgumentKind} {token : String} (h : kind.accepts token = true)
    (name : String) (caps : Captures) :
    (align [.argument name kind true] [token] caps).1 = .full (caps.insert name token) := by
  rw [align_cons rfl, takeWord, if_pos (show (Element.argument name kind true).accepts token = true
    from h), orSkip_full_iff]
  exact Or.inl (align_nil _)

theorem isFull_orSkip_iff {optional : Bool} {taken : Attempt} {skip : Captures → Attempt} :
    (orSkip optional taken skip).1.isFull = true ↔
      taken.1.isFull = true ∨ (optional = true ∧ (skip taken.2).1.isFull = true) := by
  simp only [Match.isFull_iff, orSkip_full_iff]
  constructor
  · rintro ⟨c, h | ⟨ho, _, h⟩⟩
    · exact Or.inl ⟨c, h⟩
    · exact Or.inr ⟨ho, c, h⟩
  · rintro (⟨c, h⟩ | ⟨ho, c, h⟩)
    · exact ⟨c, Or.inl h⟩
    · cases hf : taken.1.isFull with
      | true =>
        obtain ⟨c', hc'⟩ := Match.isFull_iff.mp hf
        exact ⟨c', Or.inl hc'⟩
      | false => exact ⟨c, Or.inr ⟨ho, rfl, h⟩⟩

theorem orSkip_incomplete_iff {optional : Bool} {taken : Attempt} {skip : Captures → Attempt} :
    (orSkip optional taken skip).1 = .incomplete ↔
      (orSkip optional taken skip).1.isFull = false ∧
        (taken.1 = .incomplete ∨ (optional = true ∧ (skip taken.2).1 = .incomplete)) := by
  unfold orSkip
  cases optional with
  | false =>
    cases h : taken.1 <;> simp [h, Match.isFull]
  | true =>
    cases hf : taken.1.isFull with
    | true =>
      obtain ⟨c, hc⟩ := Match.isFull_iff.mp hf
      simp [hc, Match.isFull]
    | false =>
      simp only [Bool.not_false, Bool.and_true, if_true, true_and]
      exact Match.or_incomplete_iff

/-! ## Complete matches -/

/-- The matcher finds every alignment, whatever the captures hold. -/
theorem isFull_of_alignment {es : List Element} {tokens : List String} {takes : List Bool}
    {bindings : List (String × String)} (h : Alignment es tokens takes bindings)
    (caps : Captures) : (align es tokens caps).1.isFull = true := by
  induction h generalizing caps with
  | done => rfl
  | @word e es token tokens _ _ ht _ ih =>
    rw [align_cons (Element.isRest_of_takes ht), isFull_orSkip_iff]
    left
    rw [takeWord, if_pos (Element.accepts_iff.mpr ht)]
    exact ih _
  | @rest name optional _ _ _ _ hne _ ih =>
    rw [align_rest_cons name optional _ hne]
    exact ih _
  | @skip e es tokens _ _ ho hr _ ih =>
    cases he : e.isRest with
    | false =>
      rw [align_cons he, isFull_orSkip_iff]
      exact Or.inr ⟨ho, ih _⟩
    | true =>
      obtain ⟨name, optional, rfl⟩ := Element.eq_rest_of_isRest he
      have hnil := hr rfl
      have hoptional : optional = true := ho
      subst hnil
      rw [align_rest_nil, if_pos hoptional]
      exact ih _

theorem aligns_of_isFull {es : List Element} {tokens : List String} {caps : Captures}
    (h : (align es tokens caps).1.isFull = true) : Aligns es tokens := by
  induction es generalizing tokens caps with
  | nil =>
    rw [aligns_nil_iff]
    cases tokens with
    | nil => rfl
    | cons token tokens => cases h
  | cons e es ih =>
    cases he : e.isRest with
    | false =>
      rw [align_cons he, isFull_orSkip_iff] at h
      rw [aligns_cons_iff he]
      rcases h with h | ⟨ho, h⟩
      · left
        cases tokens with
        | nil =>
          rw [takeWord] at h
          cases ho : e.isOptional <;> simp [ho, Match.isFull] at h
        | cons token tokens =>
          rw [takeWord] at h
          split at h
          next ha => exact ⟨token, tokens, rfl, Element.accepts_iff.mp ha, ih h⟩
          next => cases h
      · exact Or.inr ⟨ho, ih h⟩
    | true =>
      obtain ⟨name, optional, rfl⟩ := Element.eq_rest_of_isRest he
      rw [aligns_rest_iff]
      by_cases hne : tokens = []
      · subst hne
        rw [align_rest_nil] at h
        cases optional with
        | true => exact ⟨ih h, Or.inr rfl⟩
        | false => cases h
      · rw [align_rest_cons name optional es hne] at h
        exact ⟨ih h, Or.inl hne⟩

/-- The matcher finds a complete match exactly when there is an alignment. -/
theorem isFull_align_iff {es : List Element} {tokens : List String} {caps : Captures} :
    (align es tokens caps).1.isFull = true ↔ Aligns es tokens :=
  ⟨aligns_of_isFull, fun ⟨_, _, h⟩ => isFull_of_alignment h caps⟩

/-! ## Captures -/

/-- None of the placeholders has a name in use. -/
def Unused (es : List Element) (caps : Captures) : Prop :=
  ∀ name ∈ placeholders es, caps.find? name = none

theorem placeholders_cons (e : Element) (es : List Element) :
    placeholders (e :: es) = e.name?.toList ++ placeholders es := by
  unfold placeholders
  cases h : e.name? <;> simp [h]

theorem unused_tail {e : Element} {es : List Element} {caps : Captures}
    (h : Unused (e :: es) caps) : Unused es caps := by
  intro name hn
  refine h name ?_
  rw [placeholders_cons]
  exact List.mem_append_right _ hn

theorem nodup_tail {e : Element} {es : List Element} (h : (placeholders (e :: es)).Nodup) :
    (placeholders es).Nodup := by
  rw [placeholders_cons] at h
  exact (List.nodup_append.mp h).2.1

/-- A name that is captured by an element is unused behind it. -/
theorem unused_insert {e : Element} {es : List Element} {caps : Captures} {name : String}
    (hname : e.name? = some name) (hd : (placeholders (e :: es)).Nodup)
    (h : Unused (e :: es) caps) (text : String) : Unused es (caps.insert name text) := by
  intro other hother
  rw [placeholders_cons, hname] at hd
  have hne : other ≠ name := fun heq =>
    (List.nodup_append.mp hd).2.2 name (by simp) other hother heq.symm
  rw [SortedMap.find?_insert, if_neg hne]
  exact unused_tail h other hother

theorem unused_hold {e : Element} {es : List Element} {caps : Captures}
    (hd : (placeholders (e :: es)).Nodup) (h : Unused (e :: es) caps) (token : String) :
    Unused es (e.hold token caps) := by
  cases e with
  | argument name kind optional => exact unused_insert rfl hd h token
  | _ => exact unused_tail h

theorem release_hold {e : Element} {es : List Element} {caps : Captures}
    (h : Unused (e :: es) caps) (token : String) : e.release (e.hold token caps) = caps := by
  cases e with
  | argument name kind optional =>
    refine SortedMap.erase_insert (h name ?_) token
    rw [placeholders_cons]
    exact List.mem_append_left _ (by simp [Element.name?])
  | _ => rfl

/-- The trial of an element gives the captures back if the attempts behind it do. -/
theorem takeWord_snd_of {e : Element} {es : List Element}
    (hd : (placeholders (e :: es)).Nodup) {tokens : List String} {caps : Captures}
    (h : Unused (e :: es) caps)
    (ih : ∀ tokens caps, Unused es caps → (align es tokens caps).2 = caps) :
    (takeWord e es caps tokens).2 = caps := by
  cases tokens with
  | nil => rfl
  | cons token tokens =>
    rw [takeWord]
    split
    next =>
      show e.release (align es tokens (e.hold token caps)).2 = caps
      rw [ih _ _ (unused_hold hd h token), release_hold h]
    next => rfl

/-- An attempt gives the captures back as they were. -/
theorem align_snd {es : List Element} (hd : (placeholders es).Nodup) {tokens : List String}
    {caps : Captures} (h : Unused es caps) : (align es tokens caps).2 = caps := by
  induction es generalizing tokens caps with
  | nil => rfl
  | cons e es ih =>
    have ihd := nodup_tail hd
    cases he : e.isRest with
    | false =>
      have htaken : (takeWord e es caps tokens).2 = caps :=
        takeWord_snd_of hd h fun _ _ => ih ihd
      rw [align_cons he, orSkip]
      split
      next => rw [htaken]; exact ih ihd (unused_tail h)
      next => exact htaken
    | true =>
      obtain ⟨name, optional, rfl⟩ := Element.eq_rest_of_isRest he
      by_cases hne : tokens = []
      · subst hne
        rw [align_rest_nil]
        split
        next => exact ih ihd (unused_tail h)
        next => rfl
      · rw [align_rest_cons name optional es hne]
        show SortedMap.erase (align es [] _).2 name = caps
        rw [ih ihd (unused_insert rfl hd h _)]
        refine SortedMap.erase_insert (h name ?_) _
        rw [placeholders_cons]
        exact List.mem_append_left _ (by simp [Element.name?])

theorem preferred_nil : Preferred [] [] [] [] := by
  refine ⟨.done, fun others otherBindings h => ?_⟩
  cases h
  exact Or.inl rfl

/-- Taking a word is preferred to leaving the element out. -/
theorem preferred_word {e : Element} {es : List Element} {token : String} {tokens : List String}
    {takes : List Bool} {bindings : List (String × String)} (ht : e.Takes token)
    (h : Preferred es tokens takes bindings) :
    Preferred (e :: es) (token :: tokens) (true :: takes) (e.binds token ++ bindings) := by
  refine ⟨.word ht h.1, fun others otherBindings h' => ?_⟩
  cases h' with
  | word _ h' =>
    rcases h.2 _ _ h' with rfl | hs
    · exact Or.inl rfl
    · exact Or.inr (.there hs)
  | rest _ _ => exact ht.elim
  | skip _ _ _ => exact Or.inr .here

theorem preferred_rest {name : String} {optional : Bool} {es : List Element}
    {tokens : List String} {takes : List Bool} {bindings : List (String × String)}
    (hne : tokens ≠ []) (h : Preferred es [] takes bindings) :
    Preferred (.rest name optional :: es) tokens (true :: takes)
      ((name, Text.joinWith " " tokens) :: bindings) := by
  refine ⟨.rest hne h.1, fun others otherBindings h' => ?_⟩
  cases h' with
  | word ht _ => exact ht.elim
  | rest _ h' =>
    rcases h.2 _ _ h' with rfl | hs
    · exact Or.inl rfl
    · exact Or.inr (.there hs)
  | skip _ _ _ => exact Or.inr .here

/-- Leaving an element out is preferred where it can take nothing. -/
theorem preferred_skip {e : Element} {es : List Element} {tokens : List String}
    {takes : List Bool} {bindings : List (String × String)} (ho : e.isOptional = true)
    (hr : e.isRest = true → tokens = [])
    (hno : ∀ token rest, tokens = token :: rest → e.Takes token → ¬ Aligns es rest)
    (h : Preferred es tokens takes bindings) :
    Preferred (e :: es) tokens (false :: takes) bindings := by
  refine ⟨.skip ho hr h.1, fun others otherBindings h' => ?_⟩
  cases h' with
  | word ht h' => exact absurd ⟨_, _, h'⟩ (hno _ _ rfl ht)
  | rest hne _ => exact absurd (hr rfl) hne
  | skip _ _ h' =>
    rcases h.2 _ _ h' with rfl | hs
    · exact Or.inl rfl
    · exact Or.inr (.there hs)

/-- The captures of a complete match are those at its start with the bindings of the preferred
    alignment. The induction follows the elements; an element is left out only after its trial has
    failed, and by then the captures are as they were (`align_snd`). -/
theorem preferred_of_align {es : List Element} (hd : (placeholders es).Nodup)
    {tokens : List String} {caps c : Captures} (h : Unused es caps)
    (hfull : (align es tokens caps).1 = .full c) :
    ∃ takes bindings, Preferred es tokens takes bindings ∧ c = caps.insertAll bindings := by
  induction es generalizing tokens caps with
  | nil =>
    cases tokens with
    | nil =>
      cases hfull
      exact ⟨[], [], preferred_nil, rfl⟩
    | cons token tokens => cases hfull
  | cons e es ih =>
    have ihd := nodup_tail hd
    cases he : e.isRest with
    | false =>
      rw [align_cons he, orSkip_full_iff] at hfull
      rcases hfull with hfull | ⟨ho, hno, hfull⟩
      · cases tokens with
        | nil =>
          rw [takeWord] at hfull
          cases ho : e.isOptional <;> simp [ho] at hfull
        | cons token tokens =>
          rw [takeWord] at hfull
          split at hfull
          next ha =>
            obtain ⟨takes, bindings, hp, rfl⟩ := ih ihd (unused_hold hd h token) hfull
            refine ⟨_, _, preferred_word (Element.accepts_iff.mp ha) hp, ?_⟩
            rw [Element.hold_eq_insertAll]
            exact (List.foldl_append ..).symm
          next => cases hfull
      · have hcaps : (takeWord e es caps tokens).2 = caps :=
          takeWord_snd_of hd h fun _ _ => align_snd ihd
        rw [hcaps] at hfull
        obtain ⟨takes, bindings, hp, rfl⟩ := ih ihd (unused_tail h) hfull
        refine ⟨_, _, preferred_skip ho (fun hr => ?_) ?_ hp, rfl⟩
        · rw [he] at hr
          cases hr
        · rintro token rest rfl ht hrest
          rw [takeWord, if_pos (Element.accepts_iff.mpr ht)] at hno
          have hfit : (align es rest (e.hold token caps)).1.isFull = true :=
            isFull_align_iff.mpr hrest
          simp [hfit] at hno
    | true =>
      obtain ⟨name, optional, rfl⟩ := Element.eq_rest_of_isRest he
      by_cases hne : tokens = []
      · subst hne
        rw [align_rest_nil] at hfull
        split at hfull
        next ho =>
          obtain ⟨takes, bindings, hp, rfl⟩ := ih ihd (unused_tail h) hfull
          refine ⟨_, _, preferred_skip ho (fun _ => rfl) ?_ hp, rfl⟩
          rintro token rest ⟨⟩
        next => cases hfull
      · rw [align_rest_cons name optional es hne] at hfull
        obtain ⟨takes, bindings, hp, rfl⟩ := ih ihd (unused_insert rfl hd h _) hfull
        exact ⟨_, _, preferred_rest hne hp, rfl⟩

theorem align_full_iff {es : List Element} (hd : (placeholders es).Nodup) {tokens : List String}
    {caps c : Captures} (h : Unused es caps) :
    (align es tokens caps).1 = .full c ↔
      ∃ takes bindings, Preferred es tokens takes bindings ∧ c = caps.insertAll bindings := by
  constructor
  · exact preferred_of_align hd h
  · rintro ⟨takes, bindings, hp, rfl⟩
    obtain ⟨c, hc⟩ := Match.isFull_iff.mp (isFull_of_alignment hp.1 caps)
    obtain ⟨takes', bindings', hp', rfl⟩ := preferred_of_align hd h hc
    obtain ⟨_, rfl⟩ := hp.unique hp'
    exact hc

end TrainingLab.Grammar
