import TrainingLab.Proofs.Lab.Simulation

/-
  Network security groups. Their rules are evaluated in the order of their priorities, and rules of
  one priority, or of none, in the order of the list: that fixes the order (`order_eq_iff`). The
  first rule that allows the packet decides, and only if there is none the first that denies it
  (`Evaluates`). So whether the packet passes hangs on which rules there are, and not on where they
  stand in the list.

  Proved:
  * `sorted_order`, `filter_order`, `perm_order`: the order sorts, is stable, and keeps the rules.
  * `order_eq_iff`: no other list does so.
  * `evaluates_iff`: which step a cloud resource with rules takes.
  * `outcome_eq`, `allows_of_perm`, `allows_insert_deny`: what the outcome does not depend on.
  * `securityGroup_evaluation`: all of this for every list of rules.
-/

namespace TrainingLab

namespace SecurityGroup

/-! ## The order of evaluation -/

/-- The rule may be evaluated before the other one: if that one has a priority, this one has one
    too, and no higher number. -/
def Precedes (p q : Policy) : Prop :=
  ∀ b, q.priority = some b → ∃ a, p.priority = some a ∧ a ≤ b

theorem precedes_iff {p q : Policy} : precedes p q = true ↔ Precedes p q := by
  unfold precedes Precedes
  cases p.priority <;> cases q.priority <;> simp

theorem Precedes.of_priority_eq {p q : Policy} (h : p.priority = q.priority) : Precedes p q :=
  fun b hb => ⟨b, h.trans hb, UInt32.le_refl b⟩

theorem Precedes.trans {p q r : Policy} (hpq : Precedes p q) (hqr : Precedes q r) :
    Precedes p r := by
  intro c hc
  obtain ⟨b, hb, hbc⟩ := hqr c hc
  obtain ⟨a, ha, hab⟩ := hpq b hb
  exact ⟨a, ha, UInt32.le_trans hab hbc⟩

theorem Precedes.total (p q : Policy) : Precedes p q ∨ Precedes q p := by
  unfold Precedes
  cases hp : p.priority with
  | none => exact Or.inr fun a ha => by cases ha
  | some a =>
    cases hq : q.priority with
    | none => exact Or.inl fun b hb => by cases hb
    | some b => simpa using UInt32.le_total a b

/-- Rules that may change places have the same priority, or both none. -/
theorem Precedes.antisymm {p q : Policy} (hpq : Precedes p q) (hqp : Precedes q p) :
    p.priority = q.priority := by
  cases hq : q.priority with
  | some b =>
    obtain ⟨a, ha, hab⟩ := hpq b hq
    obtain ⟨b', hb', hba⟩ := hqp a ha
    rw [hq, Option.some.injEq] at hb'
    subst hb'
    rw [ha, UInt32.le_antisymm hab hba]
  | none =>
    cases hp : p.priority with
    | none => rfl
    | some a =>
      obtain ⟨b, hb, _⟩ := hqp a hp
      rw [hq] at hb
      cases hb

theorem sorted_insertRule {p : Policy} {rules : List Policy} (h : rules.Pairwise Precedes) :
    (insertRule p rules).Pairwise Precedes := by
  induction rules with
  | nil => exact List.pairwise_singleton _ _
  | cons q rest ih =>
    obtain ⟨hq, hrest⟩ := List.pairwise_cons.mp h
    rw [insertRule]
    split
    next hp =>
      have hpq : Precedes p q := precedes_iff.mp hp
      exact List.pairwise_cons.mpr
        ⟨List.forall_mem_cons.mpr ⟨hpq, fun r hr => hpq.trans (hq r hr)⟩, h⟩
    next hp =>
      have hqp : Precedes q p :=
        (Precedes.total p q).resolve_left fun hpq => hp (precedes_iff.mpr hpq)
      refine List.pairwise_cons.mpr ⟨fun r hr => ?_, ih hrest⟩
      rcases mem_insertRule.mp hr with rfl | hr
      · exact hqp
      · exact hq r hr

theorem sorted_order (policies : List Policy) : (order policies).Pairwise Precedes := by
  induction policies with
  | nil => exact List.Pairwise.nil
  | cons p rest ih => exact sorted_insertRule ih

/-- A rule is put before all others of its priority. -/
theorem filter_insertRule (p : Policy) (rules : List Policy) (priority : Option UInt32) :
    (insertRule p rules).filter (fun r => r.priority = priority) =
      (p :: rules).filter (fun r => r.priority = priority) := by
  induction rules with
  | nil => rfl
  | cons q rest ih =>
    rw [insertRule]
    split
    next => rfl
    next hp =>
      -- the rule that is passed has another priority, so that at most one of the two is kept
      have hne : p.priority ≠ q.priority :=
        fun heq => hp (precedes_iff.mpr (Precedes.of_priority_eq heq))
      rw [List.filter_cons, ih]
      by_cases hq : q.priority = priority
      · have hpriority : p.priority ≠ priority := fun heq => hne (heq.trans hq.symm)
        simp [hq, hpriority]
      · simp [List.filter_cons, hq]

/-- Rules of one priority, or of none, keep the order of the list. -/
theorem filter_order (policies : List Policy) (priority : Option UInt32) :
    (order policies).filter (fun r => r.priority = priority) =
      policies.filter (fun r => r.priority = priority) := by
  induction policies with
  | nil => rfl
  | cons p rest ih =>
    have hstep : order (p :: rest) = insertRule p (order rest) := rfl
    rw [hstep, filter_insertRule, List.filter_cons, ih, List.filter_cons]

theorem perm_insertRule (p : Policy) (rules : List Policy) :
    (insertRule p rules).Perm (p :: rules) := by
  induction rules with
  | nil => exact List.Perm.refl _
  | cons q rest ih =>
    rw [insertRule]
    split
    · exact List.Perm.refl _
    · exact (ih.cons q).trans (List.Perm.swap p q rest)

theorem perm_order (policies : List Policy) : (order policies).Perm policies := by
  induction policies with
  | nil => exact List.Perm.refl _
  | cons p rest ih => exact (perm_insertRule p (order rest)).trans (ih.cons p)

theorem mem_of_filter_eq {rules rules' : List Policy}
    (h : ∀ priority, rules.filter (fun r => r.priority = priority) =
      rules'.filter (fun r => r.priority = priority)) {p : Policy} (hp : p ∈ rules) :
    p ∈ rules' := by
  have hkept : p ∈ rules.filter fun r => r.priority = p.priority :=
    List.mem_filter.mpr ⟨hp, by simp⟩
  rw [h] at hkept
  exact (List.mem_filter.mp hkept).1

/-- Sorted lists with the same rules of every priority, in the same order, are the same. -/
theorem eq_of_sorted {rules rules' : List Policy} (h : rules.Pairwise Precedes)
    (h' : rules'.Pairwise Precedes)
    (hfilter : ∀ priority, rules.filter (fun r => r.priority = priority) =
      rules'.filter (fun r => r.priority = priority)) : rules = rules' := by
  induction rules generalizing rules' with
  | nil =>
    cases rules' with
    | nil => rfl
    | cons q _ => exact absurd (hfilter q.priority) (by simp)
  | cons p rest ih =>
    cases rules' with
    | nil => exact absurd (hfilter p.priority) (by simp)
    | cons q rest' =>
      obtain ⟨hp, hrest⟩ := List.pairwise_cons.mp h
      obtain ⟨hq, hrest'⟩ := List.pairwise_cons.mp h'
      have hpriority : p.priority = q.priority := by
        rcases List.mem_cons.mp (mem_of_filter_eq hfilter List.mem_cons_self) with rfl | hpq
        · rfl
        rcases List.mem_cons.mp
          (mem_of_filter_eq (fun k => (hfilter k).symm) List.mem_cons_self) with rfl | hqp
        · rfl
        exact (hp q hqp).antisymm (hq p hpq)
      -- both heads are the first rule of the one priority that they have
      obtain rfl : p = q := by
        have heads := hfilter q.priority
        simp only [List.filter_cons, hpriority, decide_true, if_true] at heads
        exact (List.cons.inj heads).1
      refine congrArg (p :: ·) (ih hrest hrest' fun priority => ?_)
      have heq := hfilter priority
      rw [List.filter_cons, List.filter_cons] at heq
      split at heq
      · exact (List.cons.inj heq).2
      · exact heq

/-- The order of evaluation is the only list of the same rules that is sorted by priority and leaves
    rules of one priority, or of none, in the order of the list. -/
theorem order_eq_iff {policies rules : List Policy} :
    rules = order policies ↔ rules.Perm policies ∧ rules.Pairwise Precedes ∧
      ∀ priority, rules.filter (fun r => r.priority = priority) =
        policies.filter (fun r => r.priority = priority) := by
  constructor
  · rintro rfl
    exact ⟨perm_order policies, sorted_order policies, filter_order policies⟩
  · rintro ⟨_, hsorted, hstable⟩
    exact eq_of_sorted hsorted (sorted_order policies)
      fun priority => (hstable priority).trans (filter_order policies priority).symm

/-! ## The deciding rule -/

/-- The rule is the first one in the list with that action whose selectors take in the protocol. -/
def IsFirst (rules : List Policy) (action : PolicyAction) (protocol : Protocol) (p : Policy) :
    Prop :=
  ∃ before after, rules = before ++ p :: after ∧
    p.action = action ∧ p.Selects protocol.transport protocol.port ∧
    ∀ q ∈ before, q.action = action → ¬ q.Selects protocol.transport protocol.port

theorem deciding?_eq_some_iff {rules : List Policy} {action : PolicyAction} {protocol : Protocol}
    {p : Policy} :
    Device.deciding? rules action protocol = some p ↔ IsFirst rules action protocol p := by
  have hhit : ∀ q : Policy,
      (q.action == action && q.covers protocol.transport protocol.port) = true ↔
        q.action = action ∧ q.Selects protocol.transport protocol.port := by
    simp [Policy.covers_iff]
  rw [Device.deciding?, List.find?_eq_some_iff_append]
  simp only [Bool.not_eq_true', ← Bool.not_eq_true, hhit, not_and]
  constructor
  · rintro ⟨⟨haction, hselects⟩, before, after, heq, hbefore⟩
    exact ⟨before, after, heq, haction, hselects, hbefore⟩
  · rintro ⟨before, after, heq, haction, hselects, hbefore⟩
    exact ⟨⟨haction, hselects⟩, before, after, heq, hbefore⟩

theorem IsFirst.unique {rules : List Policy} {action : PolicyAction} {protocol : Protocol}
    {p q : Policy} (hp : IsFirst rules action protocol p) (hq : IsFirst rules action protocol q) :
    p = q :=
  Option.some.inj ((deciding?_eq_some_iff.mpr hp).symm.trans (deciding?_eq_some_iff.mpr hq))

/-- A rule that is the first in the order of evaluation is one of the rules, and decides. -/
theorem IsFirst.rule {policies : List Policy} {action : PolicyAction} {protocol : Protocol}
    {p : Policy} (h : IsFirst (order policies) action protocol p) :
    p ∈ policies ∧ p.action = action ∧ p.Selects protocol.transport protocol.port := by
  obtain ⟨before, after, heq, haction, hselects, _⟩ := h
  exact ⟨mem_order.mp (by simp [heq]), haction, hselects⟩

/-- Some rule allows the protocol. -/
def Allows (policies : List Policy) (protocol : Protocol) : Prop :=
  ∃ p ∈ policies, p.action = .allow ∧ p.Selects protocol.transport protocol.port

instance (policies : List Policy) (protocol : Protocol) : Decidable (Allows policies protocol) :=
  List.decidableBEx _ policies

/-- How a list of rules decides: with which outcome, and by the rule of which name. A rule that
    denies the protocol decides only where none allows it. -/
inductive Evaluates (policies : List Policy) (protocol : Protocol) : StepOutcome → String → Prop
  | allowed {p : Policy} (hallow : IsFirst (order policies) .allow protocol p) :
      Evaluates policies protocol .success p.name
  | denied {p : Policy} (hnone : ¬ Allows policies protocol)
      (hdeny : IsFirst (order policies) .deny protocol p) :
      Evaluates policies protocol .drop p.name
  | implicit (hnone : ∀ q ∈ policies, ¬ q.Selects protocol.transport protocol.port) :
      Evaluates policies protocol .drop "implicit-deny"

theorem Evaluates.unique {policies : List Policy} {protocol : Protocol}
    {outcome outcome' : StepOutcome} {name name' : String}
    (h : Evaluates policies protocol outcome name)
    (h' : Evaluates policies protocol outcome' name') : outcome = outcome' ∧ name = name' := by
  cases h with
  | allowed hp =>
    cases h' with
    | allowed hq => exact ⟨rfl, congrArg Policy.name (hp.unique hq)⟩
    | denied hnone => exact absurd ⟨_, hp.rule⟩ hnone
    | implicit hnone => exact absurd hp.rule.2.2 (hnone _ hp.rule.1)
  | denied hnone hp =>
    cases h' with
    | allowed hq => exact absurd ⟨_, hq.rule⟩ hnone
    | denied _ hq => exact ⟨rfl, congrArg Policy.name (hp.unique hq)⟩
    | implicit hnone' => exact absurd hp.rule.2.2 (hnone' _ hp.rule.1)
  | implicit hnone =>
    cases h' with
    | allowed hq => exact absurd hq.rule.2.2 (hnone _ hq.rule.1)
    | denied _ hq => exact absurd hq.rule.2.2 (hnone _ hq.rule.1)
    | implicit => exact ⟨rfl, rfl⟩

/-! ## Cloud resources -/

variable {d : Device} {protocol : Protocol}

theorem hopStep_eq (hkind : d.kind = .cloud) (hne : d.policies ≠ []) :
    d.hopStep protocol = d.securityGroupStep protocol := by
  have hsome : d.policies.isEmpty = false := by simpa using hne
  simp [Device.hopStep, hkind, hsome]

/-- A cloud resource with rules takes a step that they decide on, and names the rule. -/
theorem evaluates_hopStep (hkind : d.kind = .cloud) (hne : d.policies ≠ [])
    (protocol : Protocol) :
    ∃ name, (d.hopStep protocol).detail = some name ∧
      Evaluates d.policies protocol (d.hopStep protocol).outcome name := by
  rw [hopStep_eq hkind hne, Device.securityGroupStep]
  cases hallow : Device.deciding? (order d.policies) .allow protocol with
  | some p => exact ⟨p.name, rfl, .allowed (deciding?_eq_some_iff.mp hallow)⟩
  | none =>
    have hnone := Device.deciding?_eq_none_iff.mp hallow
    have hno : ¬ Allows d.policies protocol := by
      rintro ⟨p, hp, haction, hselects⟩
      exact hnone p hp haction hselects
    cases hdeny : Device.deciding? (order d.policies) .deny protocol with
    | some p => exact ⟨p.name, rfl, .denied hno (deciding?_eq_some_iff.mp hdeny)⟩
    | none =>
      have hnone' := Device.deciding?_eq_none_iff.mp hdeny
      refine ⟨_, rfl, .implicit fun q hq => ?_⟩
      cases haction : q.action with
      | allow => exact hnone q hq haction
      | deny => exact hnone' q hq haction

theorem evaluates_iff (hkind : d.kind = .cloud) (hne : d.policies ≠ []) {outcome : StepOutcome}
    {name : String} :
    Evaluates d.policies protocol outcome name ↔
      (d.hopStep protocol).outcome = outcome ∧ (d.hopStep protocol).detail = some name := by
  obtain ⟨actual, hdetail, hactual⟩ := evaluates_hopStep hkind hne protocol
  rw [hdetail, Option.some.injEq]
  constructor
  · exact fun h => hactual.unique h
  · rintro ⟨rfl, rfl⟩
    exact hactual

/-! ## What the outcome hangs on -/

theorem Allows.mono {policies policies' : List Policy} (h : policies ⊆ policies')
    (hallows : Allows policies protocol) : Allows policies' protocol :=
  let ⟨p, hp, hallow⟩ := hallows
  ⟨p, h hp, hallow⟩

theorem allows_of_perm {policies policies' : List Policy} (h : policies.Perm policies') :
    Allows policies protocol ↔ Allows policies' protocol :=
  ⟨.mono h.subset, .mono h.symm.subset⟩

theorem subset_insert (before after : List Policy) (rule : Policy) :
    before ++ after ⊆ before ++ rule :: after :=
  ((List.sublist_cons_self rule after).append_left before).subset

/-- A rule that denies something lets nothing pass. -/
theorem allows_insert_deny {before after : List Policy} {rule : Policy}
    (hrule : rule.action = .deny) :
    Allows (before ++ rule :: after) protocol ↔ Allows (before ++ after) protocol := by
  refine ⟨?_, .mono (subset_insert before after rule)⟩
  rintro ⟨p, hp, haction, hselects⟩
  have hne : p ≠ rule := by
    rintro rfl
    rw [hrule] at haction
    cases haction
  refine ⟨p, ?_, haction, hselects⟩
  simpa [hne] using hp

/-- A cloud resource with rules lets pass what some rule allows, and drops the rest. -/
theorem outcome_eq (hkind : d.kind = .cloud) {policies : List Policy} (hne : policies ≠ []) :
    (Device.hopStep { d with policies } protocol).outcome =
      if Allows policies protocol then .success else .drop := by
  have hblocks : Device.Blocks { d with policies } protocol ↔ ¬ Allows policies protocol := by
    simp [Device.Blocks, hkind, hne, Allows]
  simp only [Device.outcome_hopStep, hblocks, ite_not]

/-- **Security groups.** The order of evaluation is the only list of the rules that is sorted by
    priority, with the rules that have none at the end, and keeps rules of one priority, or of none,
    in the order of the list. A cloud resource with rules lets a protocol pass if a rule allows it,
    and names the first that does; if none does, it drops it and names the first rule that denies
    it, or `implicit-deny` if there is none. The outcome is the same for every permutation of the
    rules. A further rule that allows something, wherever it is put in, lets nothing be dropped that
    passes without it, and one that denies something does not change the outcome. -/
theorem securityGroup_evaluation (d : Device) (hkind : d.kind = .cloud) (protocol : Protocol) :
    (∀ policies rules : List Policy,
      rules = order policies ↔ rules.Perm policies ∧ rules.Pairwise Precedes ∧
        ∀ priority, rules.filter (fun r => r.priority = priority) =
          policies.filter (fun r => r.priority = priority)) ∧
    (∀ policies : List Policy, policies ≠ [] →
      (∃ outcome name, Evaluates policies protocol outcome name) ∧
      ∀ outcome name, Evaluates policies protocol outcome name ↔
        (Device.hopStep { d with policies } protocol).outcome = outcome ∧
          (Device.hopStep { d with policies } protocol).detail = some name) ∧
    (∀ policies policies' : List Policy, policies ≠ [] → policies.Perm policies' →
      (Device.hopStep { d with policies } protocol).outcome =
        (Device.hopStep { d with policies := policies' } protocol).outcome) ∧
    (∀ (before after : List Policy) (rule : Policy), before ++ after ≠ [] →
      (rule.action = .allow →
        (Device.hopStep { d with policies := before ++ after } protocol).outcome = .success →
        (Device.hopStep { d with policies := before ++ rule :: after } protocol).outcome =
          .success) ∧
      (rule.action = .deny →
        (Device.hopStep { d with policies := before ++ rule :: after } protocol).outcome =
          (Device.hopStep { d with policies := before ++ after } protocol).outcome)) := by
  refine ⟨fun _ _ => order_eq_iff, fun policies hne => ?_,
    fun policies policies' hne hperm => ?_, fun before after rule hne => ?_⟩
  · have hsteps := @evaluates_iff { d with policies } protocol hkind hne
    obtain ⟨name, hname, hevaluates⟩ := @evaluates_hopStep { d with policies } hkind hne protocol
    exact ⟨⟨_, name, hevaluates⟩, fun _ _ => hsteps⟩
  · have hne' : policies' ≠ [] := fun hnil => hne (List.Perm.eq_nil (hnil ▸ hperm))
    rw [outcome_eq hkind hne, outcome_eq hkind hne']
    simp only [allows_of_perm hperm]
  · have hne' : before ++ rule :: after ≠ [] := by simp
    rw [outcome_eq hkind hne, outcome_eq hkind hne']
    refine ⟨fun _ hpasses => ?_, fun hdeny => by simp only [allows_insert_deny hdeny]⟩
    split at hpasses
    next hallows => exact if_pos (hallows.mono (subset_insert before after rule))
    next => cases hpasses

/-- The rule for web traffic has the last of all priorities, and still comes before the rule without
    one. It lets the web pass also if the rules are listed in another order, and if the rule that
    denies all is put in once more. -/
theorem securityGroup_evaluation_last_priority :
    let rule (name : String) (action : PolicyAction) (priority : Option UInt32)
        (port : Option UInt16) : Policy :=
      { id := 1, name, fromZone := "any", toZone := "any", action, priority, port }
    let all := rule "all" .deny none none
    let web := rule "web" .allow (some 4294967295) (some 80)
    let telnet := rule "telnet" .deny (some 0) (some 23)
    let d : Device := { id := "nsg", name := "nsg", kind := .cloud, vendor := .internet }
    d.kind = .cloud ∧ order [all, web, telnet] = [telnet, web, all] ∧
      (Device.hopStep { d with policies := [all, web, telnet] } .http).outcome = .success ∧
      (Device.hopStep { d with policies := [all, web, telnet] } .http).detail = some "web" ∧
      (Device.hopStep { d with policies := [web, telnet, all] } .http).outcome = .success ∧
      (Device.hopStep { d with policies := [web, all, telnet, all] } .http).outcome = .success := by
  intro rule all web telnet d
  have horder : order [all, web, telnet] = [telnet, web, all] := by decide
  obtain ⟨_, hsteps, hperm, hinsert⟩ := securityGroup_evaluation d rfl .http
  have hfirst : IsFirst (order [all, web, telnet]) .allow .http web :=
    ⟨[telnet], [all], horder, rfl, by decide, by decide⟩
  obtain ⟨hpasses, hname⟩ := ((hsteps _ (List.cons_ne_nil _ _)).2 _ _).mp (.allowed hfirst)
  have hshuffled : (Device.hopStep { d with policies := [web, telnet, all] } .http).outcome =
      .success :=
    (hperm [all, web, telnet] [web, telnet, all] (by simp) (by decide)).symm.trans hpasses
  exact ⟨rfl, horder, hpasses, hname, hshuffled,
    ((hinsert [web] [telnet, all] all (by simp)).2 rfl).trans hshuffled⟩

end SecurityGroup

end TrainingLab
