import TrainingLab.Proofs.Device.Rulebase
import TrainingLab.Proofs.Dialect.FortiOs.PolicyReplay
import TrainingLab.Proofs.Dialect.PanOs.InterfaceChange

/-
  Policies on the consoles that have them. FortiOS lets the user choose an id and takes zero for
  the next free one; PAN-OS counts the ids on its own and addresses rules by their names. Every
  command of either is a step of the rulebase, so policies are told apart along every run.

  Proved:
  * `FortiOs.rulebaseStep_run`, `PanOs.rulebaseStep_run`: every command is a step.
  * `FortiOs.adds_edit`, `PanOs.adds_setRule`: what comes of asking for one more policy.
  * `policy_identity`: all of it along every run of lines and edits.
-/

namespace TrainingLab

open Grammar Device

/-! ## Asking for a policy -/

/-- What comes of a line that asks for one more policy. One with an id higher than all others is
    added at the end and the objects of `context` are edited, or the error is printed and nothing
    else happens, because the highest id there can be is in use. -/
inductive AddsPolicy (d : Device) (line error : String) (new : UInt32 → Policy)
    (context : UInt32 → List Frame) : Device → Prop
  | added {id : UInt32} (hid : (new id).id = id) (hhighest : ∀ p ∈ d.policies, p.id < id) :
      AddsPolicy d line error new context
        { Dialect.echo line d with policies := d.policies ++ [new id], context := context id }
  | full (hlast : ∃ p ∈ d.policies, p.id = 4294967295) :
      AddsPolicy d line error new context ((Dialect.echo line d).log error)

variable {d : Device} {byName : Prop}

/-! ## FortiOS -/

namespace FortiOs

theorem editFirst_eq (id : UInt32) (f : Policy → Policy) (policies : List Policy) :
    editFirst id f policies = Policy.changeFirst (fun p => p.id == id) f policies := by
  induction policies with
  | nil => rfl
  | cons p rest ih =>
    rw [editFirst, Policy.changeFirst, ih]
    simp only [beq_iff_eq]

/-- A setting changes one policy in its place, if any. -/
theorem rulebaseStep_editPolicy (hnamed : ¬ byName) {f : Policy → Policy}
    (hid : ∀ p, (f p).id = p.id) (d : Device) :
    RulebaseStep byName d.policies (editPolicy f d).policies := by
  unfold editPolicy
  split
  next id _ =>
    split
    next =>
      have hstep : RulebaseStep byName d.policies (editFirst id f d.policies) := by
        rw [editFirst_eq]
        exact .changeFirst _ hid (fun hb => absurd hb hnamed) d.policies
      exact hstep
    next => exact .same d.policies
  next => exact .same d.policies

theorem Setting.rulebaseStep (hnamed : ¬ byName) {k : ObjectKind} {f : Device → Device}
    (h : Setting k f) (d : Device) : RulebaseStep byName d.policies (f d).policies := by
  cases h with
  | rejected _ => exact .same d.policies
  | policy hid => exact rulebaseStep_editPolicy hnamed hid d
  | interface f =>
    unfold editInterface
    split <;> exact .same d.policies
  | route f =>
    unfold editRoute
    split
    next => split <;> exact .same d.policies
    next => exact .same d.policies

theorem rulebaseStep_openPolicy (hnamed : ¬ byName) (id : String) (d : Device) :
    RulebaseStep byName d.policies (openPolicy id d).policies := by
  rcases openPolicy_cases id d with hopen | ⟨n, _, hopen⟩ | ⟨n, hnew, hopen⟩
  · exact hopen ▸ .same d.policies
  · exact hopen ▸ .same d.policies
  · exact hopen ▸ .added (p := blankPolicy n) hnew fun hb => absurd hb hnamed

theorem rulebaseStep_deletePolicy (id : String) (d : Device) :
    RulebaseStep byName d.policies (deletePolicy id d).policies := by
  unfold deletePolicy
  dsimp only
  split
  next => exact .same d.policies
  next => exact .removed List.filter_sublist

/-- Every command is a step of the rulebase, on which nothing is addressed by name. -/
theorem rulebaseStep_run (hnamed : ¬ byName) (c : Command) (devices : Inventory) (d : Device) :
    RulebaseStep byName d.policies (c.run devices d).policies := by
  cases c with
  | accept | openSection | leave | openInterface => exact .same d.policies
  | next =>
    rw [Command.run]
    split <;> exact .same d.policies
  | openPolicy id => exact rulebaseStep_openPolicy hnamed id d
  | deletePolicy id => exact rulebaseStep_deletePolicy id d
  | openRoute position =>
    rw [Command.run, openRoute]
    split
    next => exact .same d.policies
    next => split <;> exact .same d.policies
  | deleteInterface name =>
    rw [Command.run, deleteInterface]
    split <;> exact .same d.policies
  | deleteRoute position =>
    rw [Command.run, deleteRoute]
    split
    next => split <;> exact .same d.policies
    next => exact .same d.policies
  | setAddress | setCidr | clearAddress | setStatus | setAlias | setZone | setName | setFromZone
  | setToZone | setSource | setDestinationAddress | setAction | setService | setDestination
  | setDestinationPrefix | setGateway | setDevice =>
    exact (setting_run rfl devices).rulebaseStep hnamed d
  | _ => exact .of_forget (forget_run_of_inspects rfl devices d)

/-- `edit 0` in the policy section asks for a new policy, which is then edited. -/
theorem adds_edit (hfamily : d.family = .fortinet) {outer : List Frame}
    (hcontext : d.context = ⟨.configSection, policies⟩ :: outer) {line word : String}
    (hwords : Text.words line = ["edit", word]) (hzero : Text.readUInt32? word = some 0)
    (devices : Inventory) :
    AddsPolicy d line parseError blankPolicy
      (fun id => ⟨.policyObject, toString id⟩ :: d.context) (d.interpret devices line) := by
  have haccepts : ArgumentKind.number.accepts word = true := by
    rw [ArgumentKind.accepts, hzero]
    rfl
  have hdispatch : dispatch d.mode d.context ["edit", word] table =
      .done (.command (.openPolicy word)) := by
    rw [hcontext]
    exact dispatch_editPolicy haccepts
  have hrun : d.interpret devices line = openPolicy word (Dialect.echo line d) :=
    Dialect.interpret_of_command (speaks hfamily) hwords (by decide) (by decide) hdispatch devices
  have hpolicies : (Dialect.echo line d).policies = d.policies := rfl
  rw [hrun, openPolicy, hzero]
  simp only [beq_self_eq_true, if_true, hpolicies]
  cases hnext : Policy.nextId? d.policies with
  | none => exact .full (Policy.nextId?_eq_none_iff.mp hnext)
  | some id =>
    have hother : (d.policies.any fun p => p.id == id) = false := by
      rw [List.any_eq_false]
      intro p hp hid
      exact Policy.nextId?_not_mem hnext (List.mem_map.mpr ⟨p, hp, beq_iff_eq.mp hid⟩)
    simp only [hother]
    exact .added rfl (Policy.id_lt_of_nextId? hnext)

end FortiOs

/-! ## PAN-OS -/

namespace PanOs

theorem editRule_eq (name : String) (f : Policy → Policy) (policies : List Policy) :
    editRule name f policies = Policy.changeFirst (fun p => p.name == name) f policies := by
  induction policies with
  | nil => rfl
  | cons p rest ih =>
    rw [editRule, Policy.changeFirst, ih]
    simp only [beq_iff_eq]

theorem RuleField.id_apply (f : RuleField) (p : Policy) : (f.apply p).id = p.id := by
  cases f <;> rfl

theorem RuleField.name_apply (f : RuleField) (p : Policy) : (f.apply p).name = p.name := by
  cases f <;> rfl

/-- A rule as it is before its first field is set. -/
def blankRule (name : String) (id : UInt32) : Policy :=
  { id, name, fromZone := "any", toZone := "any", action := .allow }

theorem rulebaseStep_setRule (name field value : String) (d : Device) :
    RulebaseStep byName d.policies (setRule name field value d).policies := by
  unfold setRule
  split
  next => exact .same d.policies
  next f _ =>
    split
    next =>
      have hstep : RulebaseStep byName d.policies (editRule name f.apply d.policies) := by
        rw [editRule_eq]
        exact .changeFirst _ f.id_apply (fun _ => f.name_apply) d.policies
      exact hstep
    next hother =>
      split
      next => exact .same d.policies
      next id hid =>
        refine .added (p := f.apply (blankRule name id)) ?_ fun _ => ?_
        · rw [f.id_apply]
          exact Policy.nextId?_not_mem hid
        · rw [f.name_apply]
          intro hmem
          obtain ⟨p, hp, hname⟩ := List.mem_map.mp hmem
          exact hother (List.any_eq_true.mpr ⟨p, hp, beq_iff_eq.mpr hname⟩)

/-- Every command is a step of the rulebase. -/
theorem rulebaseStep_run (c : Command) (devices : Inventory) (d : Device) :
    RulebaseStep byName d.policies (c.run devices d).policies := by
  cases c with
  | accept | configure | exit | setAddress | setZone | setHostname | addRoute =>
    exact .same d.policies
  | setRule name field value => exact rulebaseStep_setRule name field value d
  | deleteRule name =>
    rw [Command.run, deleteRule]
    split
    next => exact .removed List.filter_sublist
    next => exact .same d.policies
  | _ => exact .of_forget (forget_run_of_inspects rfl devices d)

theorem dispatch_setRule {context : List Frame} {name field value : String} :
    dispatch .config context ["set", "rulebase", "security", "rules", name, field, value] table =
      .done (.command (.setRule name field value)) := by
  rw [dispatch_anywhere table_anywhere []]
  rfl

/-- A field with a valid value, for a name that no rule has, asks for a new rule. -/
theorem adds_setRule (hfamily : d.family = .paloAlto) (hmode : d.mode = .config)
    {line name field value : String} {f : RuleField}
    (hwords : Text.words line = ["set", "rulebase", "security", "rules", name, field, value])
    (hfield : RuleField.read? field value = some f) (hnew : ∀ p ∈ d.policies, p.name ≠ name)
    (devices : Inventory) :
    AddsPolicy d line invalidSyntax (fun id => f.apply (blankRule name id)) (fun _ => d.context)
      (d.interpret devices line) := by
  have hdispatch : dispatch d.mode d.context
      ["set", "rulebase", "security", "rules", name, field, value] table =
      .done (.command (.setRule name field value)) := by
    rw [hmode]
    exact dispatch_setRule
  have hrun : d.interpret devices line = setRule name field value (Dialect.echo line d) :=
    Dialect.interpret_of_command (speaks hfamily) hwords (by decide) (by decide) hdispatch devices
  have hpolicies : (Dialect.echo line d).policies = d.policies := rfl
  have hother : (d.policies.any fun p => p.name == name) = false := by
    rw [List.any_eq_false]
    intro p hp hname
    exact hnew p hp (beq_iff_eq.mp hname)
  rw [hrun, setRule, hfield]
  simp only [hpolicies, hother]
  cases hnext : Policy.nextId? d.policies with
  | none => exact .full (Policy.nextId?_eq_none_iff.mp hnext)
  | some id => exact .added (f.id_apply _) (Policy.id_lt_of_nextId? hnext)

end PanOs

/-! ## Along every run -/

/-- On the families with policies, what a line or an edit does to them is a step. -/
theorem rulebaseStep_apply (hfamily : d.family = .fortinet ∨ d.family = .paloAlto)
    (devices : Inventory) (a : Action) :
    RulebaseStep (d.family = .paloAlto) d.policies (a.apply devices d).policies := by
  cases a with
  | edit e =>
    have hsame : (Action.apply devices (.edit e) d).policies = d.policies := d.policies_applyEdit e
    rw [hsame]
    exact .same d.policies
  | line text =>
    rcases hfamily with hfamily | hfamily
    · have hnamed : ¬ d.family = .paloAlto := by
        rw [hfamily]
        decide
      obtain ⟨help, hinterpret⟩ := FortiOs.speaks hfamily
      rw [Action.apply, hinterpret]
      exact Dialect.related_interpret (v := Device.policies) (fun _ => rfl) .same
        (fun c _ => FortiOs.rulebaseStep_run hnamed c) help devices text d
    · obtain ⟨help, hinterpret⟩ := PanOs.speaks hfamily
      rw [Action.apply, hinterpret]
      exact Dialect.related_interpret (v := Device.policies) (fun _ => rfl) .same
        (fun c _ => PanOs.rulebaseStep_run c) help devices text d

theorem distinctPolicies_run (hfamily : d.family = .fortinet ∨ d.family = .paloAlto)
    (h : DistinctPolicies (d.family = .paloAlto) d.policies)
    (actions : List (Inventory × Action)) :
    DistinctPolicies (d.family = .paloAlto) (d.run actions).policies := by
  induction actions generalizing d with
  | nil => exact h
  | cons i rest ih =>
    have hkeeps : (i.2.apply i.1 d).family = d.family := i.2.family_apply i.1 d
    have hstep := h.step (rulebaseStep_apply hfamily i.1 i.2)
    rw [← hkeeps] at hfamily hstep ⊢
    exact ih hfamily hstep

/-- **The identity of policies.** On a FortiOS or PAN-OS device whose policies are told apart by
    their ids, and on PAN-OS by their names as well, they still are after any lines and edits, and
    all ids have 32 bits. Each further line or edit changes a policy in its place without changing
    its id, removes some, or adds one with an id, and on PAN-OS a name, of its own. `edit 0` in the
    policy section, and on PAN-OS a field with a valid value for a new name, take an id higher than
    all others, or print the error and do nothing else if the highest id there can be is in use. -/
theorem policy_identity (hfamily : d.family = .fortinet ∨ d.family = .paloAlto)
    (h : DistinctPolicies (d.family = .paloAlto) d.policies)
    (actions : List (Inventory × Action)) :
    let e := d.run actions
    DistinctPolicies (d.family = .paloAlto) e.policies ∧
    (∀ p ∈ e.policies, p.id.toNat < UInt32.size) ∧
    (∀ devices (a : Action),
      RulebaseStep (d.family = .paloAlto) e.policies (a.apply devices e).policies) ∧
    (d.family = .fortinet → ∀ outer devices line word,
      e.context = ⟨.configSection, FortiOs.policies⟩ :: outer →
      Text.words line = ["edit", word] → Text.readUInt32? word = some 0 →
      AddsPolicy e line FortiOs.parseError FortiOs.blankPolicy
        (fun id => ⟨.policyObject, toString id⟩ :: e.context) (e.interpret devices line)) ∧
    (d.family = .paloAlto → e.mode = .config → ∀ devices line name field value change,
      Text.words line = ["set", "rulebase", "security", "rules", name, field, value] →
      PanOs.RuleField.read? field value = some change → (∀ p ∈ e.policies, p.name ≠ name) →
      AddsPolicy e line PanOs.invalidSyntax (fun id => change.apply (PanOs.blankRule name id))
        (fun _ => e.context) (e.interpret devices line)) := by
  intro e
  have hkeeps : e.family = d.family := d.family_run actions
  have hdistinct : DistinctPolicies (d.family = .paloAlto) e.policies :=
    distinctPolicies_run hfamily h actions
  refine ⟨hdistinct, fun p _ => p.id.toNat_lt_size, fun devices a => ?_, ?_, ?_⟩
  · rw [← hkeeps] at hfamily ⊢
    exact rulebaseStep_apply hfamily devices a
  · intro hforti outer devices line word hcontext hwords hzero
    exact FortiOs.adds_edit (hkeeps.trans hforti) hcontext hwords hzero devices
  · intro hpalo hmode devices line name field value change hwords hfield hnew
    exact PanOs.adds_setRule (hkeeps.trans hpalo) hmode hwords hfield hnew devices

/-- After the last id is given out, `edit 0` is turned down; a rule that is new on PAN-OS gets the
    id behind the highest one, though lower ones are free. -/
theorem policy_identity_last_id :
    let fortinet : Device :=
      { id := "fw", name := "fw", kind := .firewall, vendor := .fortinet
        policies := [FortiOs.blankPolicy 4294967294, FortiOs.blankPolicy 7]
        context := [⟨.configSection, "firewall policy"⟩] }
    let paloAlto : Device :=
      { id := "pa", name := "pa", kind := .firewall, vendor := .paloAlto, mode := .config
        policies := [PanOs.blankRule "web" 7] }
    let none : Inventory := SortedMap.empty
    let last := fortinet.run [(none, .line "edit 0"), (none, .line "next")]
    let line := "set rulebase security rules dns action deny"
    (last.policies.map Policy.id = [4294967294, 7, 4294967295] ∧
      AddsPolicy last "edit 00" FortiOs.parseError FortiOs.blankPolicy
        (fun id => ⟨.policyObject, toString id⟩ :: last.context)
        (last.interpret none "edit 00")) ∧
    AddsPolicy paloAlto line PanOs.invalidSyntax
      (fun id => (PanOs.RuleField.action .deny).apply (PanOs.blankRule "dns" id))
      (fun _ => paloAlto.context) (paloAlto.interpret none line) := by
  intro fortinet paloAlto none last line
  refine ⟨⟨by decide +kernel, ?_⟩, ?_⟩
  · have hids : DistinctPolicies (fortinet.family = .paloAlto) fortinet.policies :=
      ⟨by decide, fun h => absurd h (by decide)⟩
    obtain ⟨_, _, _, hedit, _⟩ := policy_identity (Or.inl rfl) hids
      [(none, .line "edit 0"), (none, .line "next")]
    have hcontext : last.context = [⟨.configSection, FortiOs.policies⟩] := by decide +kernel
    exact hedit rfl [] none "edit 00" "00" hcontext (by decide) (by decide)
  · have hrules : DistinctPolicies (paloAlto.family = .paloAlto) paloAlto.policies :=
      ⟨by decide, fun _ => by decide⟩
    obtain ⟨_, _, _, _, hset⟩ := policy_identity (Or.inr rfl) hrules []
    exact hset rfl rfl none line "dns" "action" "deny" (.action .deny) (by decide +kernel)
      (by decide +kernel) (by decide)

end TrainingLab
