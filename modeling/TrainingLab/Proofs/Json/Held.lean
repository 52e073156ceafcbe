import TrainingLab.Json.Reader
import TrainingLab.Proofs.Datum.Parts
import TrainingLab.Proofs.Json.Numeral

/-
  The numbers of a document that is read are held by 64 bits. The lexer makes number tokens of
  numbers that it has read (`held_take`), and the reader makes documents of what is in the tokens
  (`held_readStep`); neither makes numbers of its own.
-/

namespace TrainingLab.Json

open Datum

/-- The document, leaving its parts aside, is no number or one that 64 bits hold. -/
def HoldsNumber : Datum → Prop
  | .number n => n.Held
  | _ => True

/-! ## The lexer -/

/-- The token is no number or one that 64 bits hold. -/
def Token.Held : Token → Prop
  | number n => n.Held
  | _ => True

theorem held_wordToken? {cs : List Char} {token : Token} (h : wordToken? cs = some token) :
    token.Held := by
  unfold wordToken? at h
  split at h
  next => cases h; trivial
  split at h
  next => cases h; trivial
  split at h
  next => cases h; trivial
  obtain ⟨n, hn, rfl⟩ := Option.map_eq_some_iff.mp h
  exact held_of_numeral? hn

/-- A character between tokens is a mark or nothing. -/
theorem held_lexStart {c : Char} {tokens : List Token} {p : Pending}
    (h : lexStart c = some (tokens, p)) : ∀ token ∈ tokens, token.Held := by
  unfold lexStart at h
  repeat
    split at h
    · cases h; simp [Token.Held]
  cases h

theorem held_lexStep {p q : Pending} {c : Char} {tokens : List Token}
    (h : lexStep p c = some (tokens, q)) : ∀ token ∈ tokens, token.Held := by
  cases p with
  | blank => exact held_lexStart h
  | word back =>
    rw [lexStep] at h
    split at h
    next =>
      cases h
      exact List.forall_mem_nil _
    split at h
    next token _ _ hword hstart =>
      cases h
      exact List.forall_mem_cons.mpr ⟨held_wordToken? hword, held_lexStart hstart⟩
    next => cases h
  | text back =>
    rw [lexStep] at h
    split at h
    next =>
      cases h
      exact List.forall_mem_singleton.mpr trivial
    split at h
    next =>
      cases h
      exact List.forall_mem_nil _
    split at h
    next => cases h
    next =>
      cases h
      exact List.forall_mem_nil _
  | escape back =>
    rw [lexStep] at h
    split at h
    next =>
      cases h
      exact List.forall_mem_nil _
    next =>
      obtain ⟨_, _, heq⟩ := Option.map_eq_some_iff.mp h
      cases heq
      exact List.forall_mem_nil _
  | unit back left value =>
    obtain ⟨_, _, heq⟩ := Option.map_eq_some_iff.mp h
    split at heq
    next =>
      cases heq
      exact List.forall_mem_nil _
    next =>
      cases heq
      exact List.forall_mem_nil _

theorem held_take {l next : Lexer} {c : Char} (h : l.take c = some next)
    (hl : ∀ token ∈ l.back, token.Held) : ∀ token ∈ next.back, token.Held := by
  obtain ⟨⟨tokens, pending⟩, hstep, rfl⟩ := Option.map_eq_some_iff.mp h
  intro token htoken
  rcases List.mem_append.mp htoken with hnew | hold
  · exact held_lexStep hstep token (List.mem_reverse.mp hnew)
  · exact hl token hold

theorem held_takeAll {l last : Lexer} {cs : List Char} (h : cs.foldlM Lexer.take l = some last)
    (hl : ∀ token ∈ l.back, token.Held) : ∀ token ∈ last.back, token.Held := by
  induction cs generalizing l with
  | nil =>
    cases h
    exact hl
  | cons c cs ih =>
    rw [List.foldlM_cons] at h
    obtain ⟨next, hnext, hlast⟩ := Option.bind_eq_some_iff.mp h
    exact ih hlast (held_take hnext hl)

theorem held_tokens? {s : String} {tokens : List Token} (h : tokens? s = some tokens) :
    ∀ token ∈ tokens, token.Held := by
  obtain ⟨last, hlast, hfinish⟩ := Option.bind_eq_some_iff.mp h
  have hback := held_takeAll hlast (List.forall_mem_nil _)
  unfold Lexer.finish? at hfinish
  split at hfinish
  next =>
    cases hfinish
    exact fun token htoken => hback token (List.mem_reverse.mp htoken)
  next =>
    obtain ⟨token, hword, rfl⟩ := Option.map_eq_some_iff.mp hfinish
    intro token' htoken'
    rcases List.mem_cons.mp (List.mem_reverse.mp htoken') with rfl | hold
    · exact held_wordToken? hword
    · exact hback token' hold
  next => cases hfinish

/-! ## The reader -/

/-- The numbers of what an open list or record holds are held. -/
def Open.Held : Open → Prop
  | list back => ∀ d ∈ back, d.Every HoldsNumber
  | record back _ => ∀ e ∈ back, e.2.Every HoldsNumber

/-- The numbers of what has been read are held. -/
def Expected.Held : Expected → Prop
  | field back => ∀ e ∈ back, e.2.Every HoldsNumber
  | colon back _ => ∀ e ∈ back, e.2.Every HoldsNumber
  | rest d => d.Every HoldsNumber
  | _ => True

/-- A record has the values that are read for its fields. -/
theorem values_of_named {fields : List (Literal × Datum)} {named : List (String × Datum)}
    (h : (fields.mapM fun (name, d) => name.value.map fun s => (s, d)) = some named) :
    named.map Prod.snd = fields.map Prod.snd := by
  induction fields generalizing named with
  | nil =>
    cases h
    rfl
  | cons e fields ih =>
    rw [List.mapM_cons] at h
    obtain ⟨first, hfirst, h⟩ := Option.bind_eq_some_iff.mp h
    obtain ⟨others, hothers, h⟩ := Option.bind_eq_some_iff.mp h
    obtain ⟨s, _, rfl⟩ := Option.map_eq_some_iff.mp hfirst
    cases h
    rw [List.map_cons, List.map_cons, ih hothers]

theorem every_recordOf {fields : List (Literal × Datum)}
    (h : ∀ e ∈ fields, e.2.Every HoldsNumber) : (recordOf fields).Every HoldsNumber := by
  unfold recordOf
  split
  next named hnamed =>
    refine .record trivial fun e he => ?_
    have hvalue : e.2 ∈ fields.map Prod.snd := by
      rw [← values_of_named hnamed]
      exact List.mem_map_of_mem he
    obtain ⟨field, hfield, heq⟩ := List.mem_map.mp hvalue
    rw [← heq]
    exact h field hfield
  next => exact .leaf trivial rfl

theorem every_scalar? {token : Token} {d : Datum} (h : scalar? token = some d)
    (htoken : token.Held) : d.Every HoldsNumber := by
  cases token <;> cases h
  case null => exact .leaf trivial rfl
  case bool b => exact .leaf trivial rfl
  case number n => exact .leaf htoken rfl
  case text l =>
    unfold textOf
    split
    next => exact .leaf trivial rfl
    next => exact .leaf trivial rfl

theorem held_startValue {stack above : List Open} {token : Token} {next : Expected}
    (h : startValue stack token = some (next, above)) (hstack : ∀ o ∈ stack, o.Held)
    (htoken : token.Held) : next.Held ∧ ∀ o ∈ above, o.Held := by
  unfold startValue at h
  split at h
  next =>
    cases h
    exact ⟨trivial, hstack⟩
  next =>
    cases h
    exact ⟨trivial, hstack⟩
  next =>
    obtain ⟨d, hd, heq⟩ := Option.map_eq_some_iff.mp h
    cases heq
    exact ⟨every_scalar? hd htoken, hstack⟩

/-- No step of the reader makes a number. -/
theorem held_readStep {expected next : Expected} {stack above : List Open} {token : Token}
    (h : readStep expected stack token = some (next, above)) (hexpected : expected.Held)
    (hstack : ∀ o ∈ stack, o.Held) (htoken : token.Held) :
    next.Held ∧ ∀ o ∈ above, o.Held := by
  unfold readStep at h
  split at h
  case h_1 => exact held_startValue h hstack htoken
  case h_2 =>
    cases h
    exact ⟨.list trivial (List.forall_mem_nil _), hstack⟩
  case h_3 =>
    have hopen : Open.Held (.list []) := List.forall_mem_nil _
    exact held_startValue h (List.forall_mem_cons.mpr ⟨hopen, hstack⟩) htoken
  case h_4 =>
    cases h
    exact ⟨.record trivial (List.forall_mem_nil _), hstack⟩
  case h_5 =>
    cases h
    exact ⟨List.forall_mem_nil _, hstack⟩
  case h_6 =>
    cases h
    exact ⟨hexpected, hstack⟩
  case h_7 =>
    cases h
    exact ⟨trivial, List.forall_mem_cons.mpr ⟨hexpected, hstack⟩⟩
  case h_8 d back stack =>
    cases h
    obtain ⟨hback, hstack⟩ := List.forall_mem_cons.mp hstack
    have hopen : Open.Held (.list (d :: back)) := List.forall_mem_cons.mpr ⟨hexpected, hback⟩
    exact ⟨trivial, List.forall_mem_cons.mpr ⟨hopen, hstack⟩⟩
  case h_9 d back stack =>
    cases h
    obtain ⟨hback, hstack⟩ := List.forall_mem_cons.mp hstack
    have hitems : ∀ e ∈ d :: back, e.Every HoldsNumber :=
      List.forall_mem_cons.mpr ⟨hexpected, hback⟩
    exact ⟨.list trivial fun e he => hitems e (List.mem_reverse.mp he), hstack⟩
  case h_10 d back name stack =>
    cases h
    obtain ⟨hback, hstack⟩ := List.forall_mem_cons.mp hstack
    exact ⟨List.forall_mem_cons.mpr ⟨hexpected, hback⟩, hstack⟩
  case h_11 d back name stack =>
    cases h
    obtain ⟨hback, hstack⟩ := List.forall_mem_cons.mp hstack
    have hfields : ∀ e ∈ (name, d) :: back, e.2.Every HoldsNumber :=
      List.forall_mem_cons.mpr ⟨hexpected, hback⟩
    exact ⟨every_recordOf fun e he => hfields e (List.mem_reverse.mp he), hstack⟩
  case h_12 => cases h

theorem every_readFrom {expected : Expected} {stack : List Open} {tokens : List Token} {d : Datum}
    (h : readFrom expected stack tokens = some d) (hexpected : expected.Held)
    (hstack : ∀ o ∈ stack, o.Held) (htokens : ∀ token ∈ tokens, token.Held) :
    d.Every HoldsNumber := by
  induction tokens generalizing expected stack with
  | nil =>
    cases expected with
    | rest d' =>
      cases stack with
      | nil =>
        cases h
        exact hexpected
      | cons o stack => cases h
    | _ => cases h
  | cons token tokens ih =>
    obtain ⟨htoken, htokens⟩ := List.forall_mem_cons.mp htokens
    rw [readFrom] at h
    split at h
    next hstep =>
      obtain ⟨hnext, habove⟩ := held_readStep hstep hexpected hstack htoken
      exact ih h hnext habove htokens
    next => cases h

/-- 64 bits hold every number of a document that is read. -/
theorem every_read? {s : String} {d : Datum} (h : read? s = some d) : d.Every HoldsNumber := by
  obtain ⟨tokens, htokens, hread⟩ := Option.bind_eq_some_iff.mp h
  exact every_readFrom hread trivial (List.forall_mem_nil _) (held_tokens? htokens)

end TrainingLab.Json
