import TrainingLab.Proofs.Grammar.Regular
import TrainingLab.Proofs.Text.Quotes

/-
  Where captures come from. A placeholder that may not be left out holds a piece of the line: a
  word that its kind takes, or the words at the end of the line joined by spaces. So a text that is
  captured is unbroken, or spaced.

  Proved:
  * `Alignment.binds_argument`, `Alignment.binds_rest`: for an alignment.
  * `Pattern.text_argument`, `Pattern.text_rest`: for the captures of a complete match.
  * `unbroken_of_captured`, `spaced_of_captured`: for the words of a line.
-/

namespace TrainingLab.Grammar

/-- A placeholder for a word binds a word of the line that its kind takes. -/
theorem Alignment.binds_argument {es : List Element} {tokens : List String} {takes : List Bool}
    {bindings : List (String × String)} (h : Alignment es tokens takes bindings) {name : String}
    {kind : ArgumentKind} (hmem : .argument name kind false ∈ es) :
    ∃ token ∈ tokens, kind.accepts token = true ∧ (name, token) ∈ bindings := by
  induction h with
  | done => cases hmem
  | @word e es token tokens takes bindings ht _ ih =>
    rcases List.mem_cons.mp hmem with rfl | hmem
    · exact ⟨token, List.mem_cons_self, ht, List.mem_append_left _ List.mem_cons_self⟩
    · obtain ⟨w, hw, hkind, hbound⟩ := ih hmem
      exact ⟨w, List.mem_cons_of_mem _ hw, hkind, List.mem_append_right _ hbound⟩
  | rest _ _ ih =>
    obtain ⟨w, hw, _⟩ := ih ((List.mem_cons.mp hmem).resolve_left nofun)
    cases hw
  | skip ho _ _ ih =>
    rcases List.mem_cons.mp hmem with rfl | hmem
    · cases ho
    · exact ih hmem

/-- A placeholder for the rest binds the words at the end of the line. -/
theorem Alignment.binds_rest {es : List Element} {tokens : List String} {takes : List Bool}
    {bindings : List (String × String)} (h : Alignment es tokens takes bindings) {name : String}
    (hmem : .rest name false ∈ es) :
    ∃ ending, ending <:+ tokens ∧ (name, Text.joinWith " " ending) ∈ bindings := by
  induction h with
  | done => cases hmem
  | @word e es token tokens takes bindings ht _ ih =>
    rcases List.mem_cons.mp hmem with rfl | hmem
    · exact ht.elim
    · obtain ⟨ending, hsuffix, hbound⟩ := ih hmem
      exact ⟨ending, hsuffix.trans (List.suffix_cons token tokens),
        List.mem_append_right _ hbound⟩
  | @rest other optional es tokens takes bindings _ _ ih =>
    rcases List.mem_cons.mp hmem with heq | hmem
    · cases heq
      exact ⟨tokens, List.suffix_refl tokens, List.mem_cons_self⟩
    · obtain ⟨ending, hsuffix, hbound⟩ := ih hmem
      exact ⟨ending, hsuffix.trans (List.nil_suffix), List.mem_cons_of_mem _ hbound⟩
  | skip ho _ _ ih =>
    rcases List.mem_cons.mp hmem with rfl | hmem
    · cases ho
    · exact ih hmem

/-- Without a placeholder for the rest, only words of the line are bound. -/
theorem Alignment.mem_of_binding {es : List Element} {tokens : List String} {takes : List Bool}
    {bindings : List (String × String)} (h : Alignment es tokens takes bindings)
    (hrest : ∀ e ∈ es, e.isRest = false) {b : String × String} (hb : b ∈ bindings) :
    b.2 ∈ tokens := by
  induction h with
  | done => cases hb
  | @word e es token tokens takes bindings _ _ ih =>
    rcases List.mem_append.mp hb with hb | hb
    · cases e with
      | argument name kind optional =>
        cases List.mem_singleton.mp hb
        exact List.mem_cons_self
      | _ => cases hb
    · exact List.mem_cons_of_mem token (ih (List.forall_mem_cons.mp hrest).2 hb)
  | rest => cases (List.forall_mem_cons.mp hrest).1
  | skip _ _ _ ih => exact ih (List.forall_mem_cons.mp hrest).2 hb

/-! ## Captures of a match -/

theorem Captures.text_of_find? {caps : Captures} {name text : String}
    (h : caps.find? name = some text) : caps.text name = text := by
  rw [Captures.text, h, Option.getD_some]

/-- What a placeholder for a word holds is a word of the line that its kind takes. -/
theorem Pattern.text_argument {p : Pattern} (hp : p.Regular) {tokens : List String}
    {caps : Captures} (h : p.matches tokens = .full caps) {name : String} {kind : ArgumentKind}
    (hmem : .argument name kind false ∈ p.elements) :
    caps.text name ∈ tokens ∧ kind.accepts (caps.text name) = true := by
  obtain ⟨takes, bindings, hpreferred, hcaps⟩ := (Pattern.matches_full_iff hp.distinct).mp h
  obtain ⟨token, htoken, hkind, hbound⟩ := hpreferred.1.binds_argument hmem
  rw [Captures.text_of_find? ((hcaps name token).mpr hbound)]
  exact ⟨htoken, hkind⟩

/-- What a placeholder for the rest holds are the words at the end of the line. -/
theorem Pattern.text_rest {p : Pattern} (hp : p.Regular) {tokens : List String} {caps : Captures}
    (h : p.matches tokens = .full caps) {name : String} (hmem : .rest name false ∈ p.elements) :
    ∃ ending, ending <:+ tokens ∧ caps.text name = Text.joinWith " " ending := by
  obtain ⟨takes, bindings, hpreferred, hcaps⟩ := (Pattern.matches_full_iff hp.distinct).mp h
  obtain ⟨ending, hsuffix, hbound⟩ := hpreferred.1.binds_rest hmem
  exact ⟨ending, hsuffix, Captures.text_of_find? ((hcaps name _).mpr hbound)⟩

/-- Without a placeholder for the rest, what a name holds is nothing or a word of the line. -/
theorem Pattern.text_mem {p : Pattern} (hp : p.Regular) {tokens : List String} {caps : Captures}
    (h : p.matches tokens = .full caps) (hrest : ∀ e ∈ p.elements, e.isRest = false)
    (name : String) : caps.text name = "" ∨ caps.text name ∈ tokens := by
  obtain ⟨takes, bindings, hpreferred, hcaps⟩ := (Pattern.matches_full_iff hp.distinct).mp h
  rw [Captures.text]
  cases hfind : caps.find? name with
  | none => exact Or.inl rfl
  | some text =>
    exact Or.inr (hpreferred.1.mem_of_binding hrest ((hcaps name text).mp hfind))

/-! ## Words of a line -/

/-- The words of a line: no white space is in them, and none is empty. -/
def AreWords (tokens : List String) : Prop := ∀ w ∈ tokens, Text.Unbroken w ∧ w ≠ ""

theorem areWords_words (line : String) : AreWords (Text.words line) := fun _ hw =>
  ⟨Text.unbroken_of_mem_words hw, Text.ne_empty_of_mem_words hw⟩

section Captured

variable {p : Pattern} {tokens : List String} {caps : Captures}

theorem isWord_of_captured (hp : p.Regular) (hwords : AreWords tokens)
    (h : p.matches tokens = .full caps) (name : String) (kind : ArgumentKind)
    (hmem : .argument name kind false ∈ p.elements) : Text.IsWord (caps.text name) :=
  hwords _ (Pattern.text_argument hp h hmem).1

/-- What is captured is taken by the kind of its placeholder. -/
theorem accepts_of_captured (hp : p.Regular) (h : p.matches tokens = .full caps) (name : String)
    (kind : ArgumentKind) (hmem : .argument name kind false ∈ p.elements) :
    kind.accepts (caps.text name) = true :=
  (Pattern.text_argument hp h hmem).2

theorem unbroken_of_captured (hp : p.Regular) (hwords : AreWords tokens)
    (h : p.matches tokens = .full caps) (name : String) (kind : ArgumentKind)
    (hmem : .argument name kind false ∈ p.elements) :
    Text.Unbroken (caps.text name) ∧ kind.accepts (caps.text name) = true := by
  obtain ⟨hword, hkind⟩ := Pattern.text_argument hp h hmem
  exact ⟨(hwords _ hword).1, hkind⟩

theorem spaced_of_captured (hp : p.Regular) (hwords : AreWords tokens)
    (h : p.matches tokens = .full caps) (name : String) (hmem : .rest name false ∈ p.elements) :
    Text.Spaced (caps.text name).toList := by
  obtain ⟨ending, hsuffix, htext⟩ := Pattern.text_rest hp h hmem
  rw [htext]
  exact Text.spaced_joinWith fun w hw => hwords w (hsuffix.subset hw)

theorem isNormal_of_captured (hp : p.Regular) (hwords : AreWords tokens)
    (h : p.matches tokens = .full caps) (name : String) (hmem : .rest name false ∈ p.elements) :
    Text.IsNormal (caps.text name) := by
  obtain ⟨ending, hsuffix, htext⟩ := Pattern.text_rest hp h hmem
  rw [htext]
  exact Text.isNormal_joinWith fun w hw => hwords w (hsuffix.subset hw)

end Captured

end TrainingLab.Grammar
