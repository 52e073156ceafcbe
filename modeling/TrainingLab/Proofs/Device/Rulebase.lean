import TrainingLab.Proofs.Device.Effect

/-
  The identity of policies. A policy is addressed by its id, and on a family that names its rules
  by its name, so neither may come twice. What one step can do to a rulebase is said once
  (`RulebaseStep`): change a policy in its place, remove policies, or add one at the end that can
  be told from all others. No step changes an id, and none makes two policies alike.

  Proved:
  * `DistinctPolicies.step`: policies that can be told apart still can after a step.
  * `id_lt_of_nextId?`, `nextId?_eq_none_iff`: the next free id is higher than all in use, and there
    is none exactly when the highest one there can be is in use.
  * `policies_applyEdit`: an edit of an interface, or a commit, leaves all policies as they are.
-/

namespace TrainingLab

namespace Policy

/-! ## The next free id -/

/-- The highest id in use, or zero. -/
def highestId (policies : List Policy) : Nat := policies.foldl (fun n p => max n p.id.toNat) 0

theorem foldl_max_id (policies : List Policy) (n : Nat) :
    policies.foldl (fun n p => max n p.id.toNat) n = max n (highestId policies) := by
  unfold highestId
  induction policies generalizing n with
  | nil => exact (Nat.max_zero n).symm
  | cons p rest ih =>
    rw [List.foldl_cons, List.foldl_cons, ih, ih (max 0 p.id.toNat), Nat.zero_max, Nat.max_assoc]

theorem highestId_cons (p : Policy) (rest : List Policy) :
    highestId (p :: rest) = max p.id.toNat (highestId rest) := by
  have hstep : highestId (p :: rest) =
      rest.foldl (fun n p => max n p.id.toNat) (max 0 p.id.toNat) := rfl
  rw [hstep, foldl_max_id, Nat.zero_max]

theorem id_le_highestId {policies : List Policy} {p : Policy} (h : p ∈ policies) :
    p.id.toNat ≤ highestId policies := by
  induction policies with
  | nil => cases h
  | cons q rest ih =>
    rw [highestId_cons]
    rcases List.mem_cons.mp h with rfl | hrest
    · exact Nat.le_max_left _ _
    · exact Nat.le_trans (ih hrest) (Nat.le_max_right _ _)

/-- The highest id is the id of a policy, unless it is zero. -/
theorem exists_id_eq_highestId {policies : List Policy} (h : highestId policies ≠ 0) :
    ∃ p ∈ policies, p.id.toNat = highestId policies := by
  induction policies with
  | nil => exact absurd rfl h
  | cons q rest ih =>
    rw [highestId_cons] at h ⊢
    by_cases hle : highestId rest ≤ q.id.toNat
    · exact ⟨q, List.mem_cons_self, (Nat.max_eq_left hle).symm⟩
    · have hlt : q.id.toNat < highestId rest := Nat.lt_of_not_le hle
      have hrest : highestId rest ≠ 0 := Nat.ne_zero_of_lt hlt
      obtain ⟨p, hp, hid⟩ := ih hrest
      refine ⟨p, List.mem_cons_of_mem q hp, ?_⟩
      rw [hid, Nat.max_eq_right (Nat.le_of_lt hlt)]

theorem highestId_lt (policies : List Policy) : highestId policies < UInt32.size := by
  by_cases h : highestId policies = 0
  · rw [h]
    decide
  · obtain ⟨p, _, hid⟩ := exists_id_eq_highestId h
    rw [← hid]
    exact p.id.toNat_lt_size

theorem nextId?_eq (policies : List Policy) :
    nextId? policies =
      if highestId policies + 1 < UInt32.size then some (UInt32.ofNat (highestId policies + 1))
      else none := rfl

/-- The next free id is higher than all in use. -/
theorem id_lt_of_nextId? {policies : List Policy} {id : UInt32} (h : nextId? policies = some id) :
    ∀ p ∈ policies, p.id < id := by
  intro p hp
  rw [nextId?_eq] at h
  split at h
  next hsmall =>
    obtain rfl := Option.some.inj h
    rw [UInt32.lt_iff_toNat_lt, UInt32.toNat_ofNat_of_lt' hsmall]
    exact Nat.lt_succ_of_le (id_le_highestId hp)
  next => cases h

/-- There is no next id exactly when the highest one there can be is in use. -/
theorem nextId?_eq_none_iff {policies : List Policy} :
    nextId? policies = none ↔ ∃ p ∈ policies, p.id = 4294967295 := by
  have hlast : ∀ id : UInt32, id = 4294967295 ↔ id.toNat + 1 = UInt32.size := by
    intro id
    rw [← UInt32.toNat_inj]
    simp only [UInt32.reduceToNat, UInt32.size]
    omega
  have hbound : highestId policies < UInt32.size := highestId_lt policies
  rw [nextId?_eq]
  constructor
  · intro h
    have hlarge : ¬ highestId policies + 1 < UInt32.size := by
      intro hsmall
      rw [if_pos hsmall] at h
      cases h
    have hfull : highestId policies + 1 = UInt32.size := by omega
    have hpositive : highestId policies ≠ 0 := by
      intro hzero
      rw [hzero] at hfull
      exact absurd hfull (by decide)
    obtain ⟨p, hp, hid⟩ := exists_id_eq_highestId hpositive
    exact ⟨p, hp, (hlast p.id).mpr (hid ▸ hfull)⟩
  · rintro ⟨p, hp, hid⟩
    have hp' : p.id.toNat ≤ highestId policies := id_le_highestId hp
    have hfull : p.id.toNat + 1 = UInt32.size := (hlast p.id).mp hid
    exact if_neg (by omega)

/-- A policy with the next free id can be told from all others. -/
theorem nextId?_not_mem {policies : List Policy} {id : UInt32} (h : nextId? policies = some id) :
    id ∉ policies.map Policy.id := by
  intro hmem
  obtain ⟨p, hp, hid⟩ := List.mem_map.mp hmem
  have hlt : p.id < id := id_lt_of_nextId? h p hp
  rw [hid] at hlt
  exact UInt32.lt_irrefl id hlt

/-! ## Changing the first policy of a kind -/

/-- Changes the first policy that the test takes. -/
def changeFirst (test : Policy → Bool) (f : Policy → Policy) : List Policy → List Policy
  | [] => []
  | p :: rest => if test p then f p :: rest else p :: changeFirst test f rest

theorem exists_of_changeFirst (test : Policy → Bool) (f : Policy → Policy)
    (policies : List Policy) :
    changeFirst test f policies = policies ∨ ∃ before p after,
      policies = before ++ p :: after ∧ changeFirst test f policies = before ++ f p :: after := by
  induction policies with
  | nil => exact .inl rfl
  | cons p rest ih =>
    unfold changeFirst
    split
    next => exact .inr ⟨[], p, rest, rfl, rfl⟩
    next =>
      rcases ih with hsame | ⟨before, q, after, hrest, hchanged⟩
      · exact .inl (congrArg (p :: ·) hsame)
      · exact .inr ⟨p :: before, q, after, congrArg (p :: ·) hrest, congrArg (p :: ·) hchanged⟩

end Policy

/-! ## Steps of a rulebase -/

/-- What one step can do to a list of policies. No policy ever changes its id, nor its name where
    policies are addressed by name, and what is added has an id, and a name, of its own. -/
inductive RulebaseStep (byName : Prop) : List Policy → List Policy → Prop
  | same (policies : List Policy) : RulebaseStep byName policies policies
  | changed (before after : List Policy) {p q : Policy} (hid : q.id = p.id)
      (hname : byName → q.name = p.name) :
      RulebaseStep byName (before ++ p :: after) (before ++ q :: after)
  | removed {policies kept : List Policy} (h : kept.Sublist policies) :
      RulebaseStep byName policies kept
  | added {policies : List Policy} {p : Policy} (hid : p.id ∉ policies.map Policy.id)
      (hname : byName → p.name ∉ policies.map Policy.name) :
      RulebaseStep byName policies (policies ++ [p])

/-- Policies can be told apart by their ids, and where they are addressed by name, by their
    names. -/
structure DistinctPolicies (byName : Prop) (policies : List Policy) : Prop where
  ids : (policies.map Policy.id).Nodup
  names : byName → (policies.map Policy.name).Nodup

variable {byName : Prop} {policies policies' : List Policy}

theorem RulebaseStep.changeFirst (test : Policy → Bool) {f : Policy → Policy}
    (hid : ∀ p, (f p).id = p.id) (hname : byName → ∀ p, (f p).name = p.name)
    (policies : List Policy) :
    RulebaseStep byName policies (Policy.changeFirst test f policies) := by
  rcases Policy.exists_of_changeFirst test f policies with hsame | ⟨before, p, after, rfl, hchanged⟩
  · rw [hsame]
    exact .same policies
  · rw [hchanged]
    exact .changed before after (hid p) fun hb => hname hb p

/-- Printing is no step at all. -/
theorem RulebaseStep.of_forget {d e : Device} (h : e.forget = d.forget) :
    RulebaseStep byName d.policies e.policies := by
  have hsame : e.policies = d.policies := Device.eq_of_forget Device.policies (fun _ => rfl) h
  rw [hsame]
  exact .same d.policies

/-- What is the same for the policy that is changed is the same for the list. -/
theorem map_changed {α : Type} (f : Policy → α) {p q : Policy} (h : f q = f p)
    (before after : List Policy) :
    (before ++ q :: after).map f = (before ++ p :: after).map f := by
  rw [List.map_append, List.map_append, List.map_cons, List.map_cons, h]

theorem nodup_map_added {α : Type} {f : Policy → α} (h : (policies.map f).Nodup) {p : Policy}
    (hnew : f p ∉ policies.map f) : ((policies ++ [p]).map f).Nodup := by
  rw [List.map_append, List.map_singleton]
  refine List.nodup_append.mpr ⟨h, List.pairwise_singleton _ _, ?_⟩
  intro a ha b hb hab
  obtain rfl := List.mem_singleton.mp hb
  exact hnew (hab ▸ ha)

/-- Policies that can be told apart still can after a step. -/
theorem DistinctPolicies.step (h : DistinctPolicies byName policies)
    (hstep : RulebaseStep byName policies policies') : DistinctPolicies byName policies' := by
  cases hstep with
  | same => exact h
  | changed before after hid hname =>
    refine ⟨?_, fun hb => ?_⟩
    · rw [map_changed Policy.id hid]
      exact h.ids
    · rw [map_changed Policy.name (hname hb)]
      exact h.names hb
  | removed hsub =>
    exact ⟨h.ids.sublist (hsub.map _), fun hb => (h.names hb).sublist (hsub.map _)⟩
  | added hid hname =>
    exact ⟨nodup_map_added h.ids hid, fun hb => nodup_map_added (h.names hb) (hname hb)⟩

/-! ## Edits -/

namespace Device

/-- An edit of an interface, or a commit, leaves all policies as they are. -/
theorem policies_applyEdit (d : Device) (e : GuiEdit) : (d.applyEdit e).policies = d.policies := by
  cases e with
  | interface name e =>
    simp only [applyEdit, applyInterfaceEdit]
    cases d.editedInterface? name with
    | none => rfl
    | some i => by_cases h : d.stagesEdits = true <;> simp only [h, if_true] <;> rfl
  | commit =>
    simp only [applyEdit, commit_eq]
    rfl

end Device

end TrainingLab
