import TrainingLab.Proofs.Dialect.Junos.Commit

/-
  What a `delete` line does to the staged view. A statement that removes an interface, or takes it
  from its zone, looks for it first. One that takes a setting from an interface does not: it stages
  the change as `set` would, and so makes the interface if there is none.

  Proved:
  * `table_deletes`: the commands that `delete` lines come to.
  * `deletion_run`: what such a command does, exactly.
  * `delete_stages_nothing_new`: no route appears, and no interface but one that a line takes a
    setting from; what is printed where the interface is missing.
-/

namespace TrainingLab.Junos

open Grammar Device

variable {d : Device}

/-! ## Commands -/

/-- The command takes a setting from an interface: its address, its description or its being
    disabled. -/
def Command.unsets : Command → Bool
  | clearAddress _ _ => true
  | describe _ none => true
  | setUp _ true => true
  | _ => false

/-- The command removes an interface, or takes it from its zone. -/
def Command.removes : Command → Bool
  | deleteInterface _ => true
  | clearZone _ => true
  | clearEditedZone _ => true
  | _ => false

/-- The command is one that a `delete` line can come to. -/
def Command.deletes : Command → Bool
  | print _ => true
  | deleteRoute _ => true
  | c => c.unsets || c.removes

theorem table_deletes : ∀ r ∈ table, r.pattern.opensWith "delete" = false ∨
    ∀ caps, ∃ c, r.meaning caps = .command c ∧ c.deletes = true := by
  have hdelete : "delete" = String.ofList ['d', 'e', 'l', 'e', 't', 'e'] := rfl
  simp only [table, hdelete, List.forall_mem_cons]
  repeat first
    | apply And.intro (Or.inl ((opensWith_ofList _ _).trans (by decide)))
    | apply And.intro (Or.inr fun _ => ⟨_, rfl, rfl⟩)
  exact List.forall_mem_nil _

/-- The staged interface that a command of a `delete` line is about, its name and unit resolved. -/
def Command.addressed? (d : Device) : Command → Option String
  | clearAddress target unit => (target.name? d).map fun name => resolve d name unit
  | describe target _ => (target.name? d).map fun name => resolve d name none
  | setUp target _ => (target.name? d).map fun name => resolve d name none
  | deleteInterface name => some (resolve d name none)
  | clearZone interface => some (resolve d interface none)
  | clearEditedZone interface => (d.frameName? .zone).map fun _ => resolve d interface none
  | _ => none

/-! ## Effects -/

/-- What a command of a `delete` line makes of a device. -/
inductive Deletion (c : Command) (d : Device) : Device → Prop
  /-- It prints, and if it is about an interface then that is not there. -/
  | printed (texts : List String)
      (h : ∀ name, c.addressed? d = some name →
        c.unsets = false ∧ d.stagedInterface? name = none ∧ texts = [notFound]) :
      Deletion c d (d.logAll texts)
  /-- It takes a setting from an interface, there or not. -/
  | unset {name : String} {edit : Interface → Interface} (hc : c.unsets = true)
      (hname : c.addressed? d = some name) (hedit : edit {} = {}) :
      Deletion c d (d.stage (.interface name edit))
  /-- It takes an interface that is there from its zone. -/
  | released {name : String} {edit : Interface → Interface} (hname : c.addressed? d = some name)
      (hthere : (d.stagedInterface? name).isSome = true) :
      Deletion c d (d.stage (.interface name edit))
  /-- It removes an interface that is there. -/
  | removed {name : String} (hname : c.addressed? d = some name)
      (hthere : (d.stagedInterface? name).isSome = true) : Deletion c d (d.stage (.removal name))
  /-- It removes routes. -/
  | unrouted {keep : Route → Bool} (hc : c.addressed? d = none) :
      Deletion c d (d.stage (.routes (List.filter keep)))

theorem deletion_stage {c : Command} {target : Target} {unit : Option String}
    {edit : Interface → Interface} (hc : c.unsets = true)
    (hname : c.addressed? d = (target.name? d).map fun name => resolve d name unit)
    (hedit : edit {} = {}) : Deletion c d (stage target unit edit d) := by
  cases target with
  | named name => exact .unset hc hname hedit
  | edited =>
    rw [stage]
    rw [Target.name?] at hname
    cases hframe : d.frameName? .interface with
    | some name =>
      rw [hframe] at hname
      exact .unset hc hname hedit
    | none =>
      rw [hframe] at hname
      refine .printed [syntaxError] fun name hsome => ?_
      rw [hname] at hsome
      cases hsome

theorem deletion_releaseZone {c : Command} {interface : String} (hc : c.unsets = false)
    (hname : c.addressed? d = some (resolve d interface none)) :
    Deletion c d (releaseZone interface d) := by
  unfold releaseZone
  split
  next hthere => exact .released hname hthere
  next hmissing =>
    refine .printed [notFound] fun name hsome => ⟨hc, ?_, rfl⟩
    cases hname.symm.trans hsome
    exact Option.not_isSome_iff_eq_none.mp hmissing

/-- What a command of a `delete` line does. -/
theorem deletion_run {c : Command} (hc : c.deletes = true) (devices : Inventory) (d : Device) :
    Deletion c d (c.run devices d) := by
  cases c with
  | print lines => exact .printed lines fun _ hsome => nomatch hsome
  | clearAddress target unit => exact deletion_stage rfl rfl rfl
  | describe target text =>
    cases text with
    | none => exact deletion_stage rfl rfl rfl
    | some => cases hc
  | setUp target up =>
    cases up with
    | true => exact deletion_stage rfl rfl rfl
    | false => cases hc
  | deleteInterface name =>
    unfold Command.run Junos.deleteInterface
    dsimp only
    split
    next hthere => exact .removed rfl hthere
    next hmissing =>
      refine .printed [notFound] fun other hsome => ⟨rfl, ?_, rfl⟩
      cases hsome
      exact Option.not_isSome_iff_eq_none.mp hmissing
  | clearZone interface => exact deletion_releaseZone rfl rfl
  | clearEditedZone interface =>
    unfold Command.run withEditedZone
    cases hzone : d.frameName? .zone with
    | some zone => exact deletion_releaseZone rfl (by rw [Command.addressed?, hzone]; rfl)
    | none =>
      refine .printed [syntaxError] fun name hsome => ?_
      rw [Command.addressed?, hzone] at hsome
      cases hsome
  | deleteRoute destination =>
    unfold Command.run Junos.deleteRoute
    dsimp only
    split
    next => exact .unrouted rfl
    next => exact .printed [notFound] fun _ hsome => nomatch hsome
  | _ => cases hc

/-! ## The staged view -/

theorem stagedInterfaces_logAll (d : Device) (texts : List String) :
    (d.logAll texts).stagedInterfaces = d.stagedInterfaces :=
  eq_of_config stagedInterfaces (fun _ => rfl) (config_logAll d texts)

theorem stagedRoutes_logAll (d : Device) (texts : List String) :
    (d.logAll texts).stagedRoutes = d.stagedRoutes :=
  eq_of_config stagedRoutes (fun _ => rfl) (config_logAll d texts)

theorem stagedInterfaces_stage (d : Device) (change : Change) :
    (d.stage change).stagedInterfaces = (d.stagedView.apply change).interfaces :=
  congrArg WorkingCopy.interfaces (stagedView_stage d change)

theorem stagedRoutes_stage (d : Device) (change : Change) :
    (d.stage change).stagedRoutes = (d.stagedView.apply change).routes :=
  congrArg WorkingCopy.routes (stagedView_stage d change)

namespace Deletion

variable {c : Command} {d' : Device}

/-- No route appears. -/
theorem routes_subset (h : Deletion c d d') {route : Route} (hroute : route ∈ d'.stagedRoutes) :
    route ∈ d.stagedRoutes := by
  cases h with
  | printed =>
    rw [stagedRoutes_logAll] at hroute
    exact hroute
  | unset | released | removed =>
    rw [stagedRoutes_stage] at hroute
    exact hroute
  | unrouted =>
    rw [stagedRoutes_stage] at hroute
    exact (List.mem_filter.mp hroute).1

/-- No interface appears, but for one that a setting is taken from. -/
theorem staged_before (h : Deletion c d d') (hd : d.CandidateDisjoint) {name : String}
    (hname : d'.stagedInterfaces.contains name = true) :
    d.stagedInterfaces.contains name = true ∨
      (c.unsets = true ∧ c.addressed? d = some name) := by
  cases h with
  | printed =>
    rw [stagedInterfaces_logAll] at hname
    exact Or.inl hname
  | unset hc haddressed =>
    rw [stagedInterfaces_stage, WorkingCopy.apply, SortedMap.contains_insert] at hname
    split at hname
    next heq => exact Or.inr ⟨hc, heq ▸ haddressed⟩
    next => exact Or.inl hname
  | released haddressed hthere =>
    rw [stagedInterfaces_stage, WorkingCopy.apply, SortedMap.contains_insert] at hname
    split at hname
    next heq =>
      rw [stagedInterface?_eq hd] at hthere
      exact Or.inl (heq ▸ hthere)
    next => exact Or.inl hname
  | removed =>
    rw [stagedInterfaces_stage, WorkingCopy.apply, SortedMap.contains_erase] at hname
    split at hname
    next => cases hname
    next => exact Or.inl hname
  | unrouted =>
    rw [stagedInterfaces_stage] at hname
    exact Or.inl hname

/-- A missing interface is not found by a command that removes. -/
theorem eq_of_missing (h : Deletion c d d') (hc : c.unsets = false) {name : String}
    (hname : c.addressed? d = some name) (hmissing : d.stagedInterface? name = none) :
    d' = d.log notFound := by
  cases h with
  | printed _ h =>
    obtain ⟨_, _, rfl⟩ := h name hname
    rfl
  | unset hunsets =>
    rw [hc] at hunsets
    cases hunsets
  | released haddressed hthere | removed haddressed hthere =>
    cases hname.symm.trans haddressed
    rw [hmissing] at hthere
    cases hthere
  | unrouted hnone =>
    rw [hname] at hnone
    cases hnone

/-- A missing interface appears, unconfigured, where a setting is taken from it. -/
theorem appears_of_missing (h : Deletion c d d') (hc : c.unsets = true) {name : String}
    (hname : c.addressed? d = some name) (hmissing : d.stagedInterface? name = none)
    (hd : d.CandidateDisjoint) :
    d'.stagedInterfaces = d.stagedInterfaces.insert name {} ∧ d'.history = d.history := by
  cases h with
  | printed _ h =>
    rw [(h name hname).1] at hc
    cases hc
  | unset _ haddressed hedit =>
    cases hname.symm.trans haddressed
    rw [stagedInterface?_eq hd] at hmissing
    refine ⟨?_, rfl⟩
    rw [stagedInterfaces_stage, WorkingCopy.apply, stagedView, hmissing, Option.getD_none, hedit]
  | released haddressed hthere | removed haddressed hthere =>
    cases hname.symm.trans haddressed
    rw [hmissing] at hthere
    cases hthere
  | unrouted hnone =>
    rw [hname] at hnone
    cases hnone

end Deletion

/-! ## Lines -/

/-- The line takes a setting from the interface. -/
def Unsets (d : Device) (line name : String) : Prop :=
  ∃ c, dialect.verdict? line d = some (.done (.command c)) ∧ c.unsets = true ∧
    c.addressed? d = some name

/-- The line removes the interface, or takes it from its zone. -/
def Removes (d : Device) (line name : String) : Prop :=
  ∃ c, dialect.verdict? line d = some (.done (.command c)) ∧ c.removes = true ∧
    c.addressed? d = some name

theorem Command.unsets_of_removes {c : Command} (h : c.removes = true) : c.unsets = false := by
  cases c <;> first | rfl | cases h

/-- A `delete` line carries out a command of its kind, or prints. -/
theorem deletion_interpret {line : String} (hword : (Text.words line).head? = some "delete")
    (help : List String) (devices : Inventory) (d : Device) :
    (∃ c, dialect.verdict? line d = some (.done (.command c)) ∧
      Deletion c (Dialect.echo line d) (dialect.interpret help devices line d)) ∨
    ((∀ m, dialect.verdict? line d ≠ some (.done m)) ∧
      ∃ text, dialect.interpret help devices line d = (Dialect.echo line d).log text) := by
  obtain ⟨rest, hwords⟩ := List.head?_eq_some_iff.mp hword
  have hv := dialect.verdict?_of_words d hwords (by decide) (by decide)
  have hinterpret := Dialect.interpret_of_some hv help devices
  cases hdispatch : dispatch d.mode d.context ("delete" :: rest) dialect.table with
  | done m =>
    obtain ⟨r, hr, hopens, caps, rfl⟩ := exists_rule_of_first_word hdispatch
    obtain hno | hcommands := table_deletes r hr
    · have hlower : Text.lower "delete" = "delete" := by decide
      rw [hlower, hno] at hopens
      cases hopens
    · obtain ⟨c, hc, hdeletes⟩ := hcommands caps
      rw [hdispatch, hc] at hv hinterpret
      refine Or.inl ⟨c, hv, ?_⟩
      rw [hinterpret]
      exact deletion_run hdeletes devices _
  | incomplete | unknown =>
    rw [hdispatch] at hv hinterpret
    refine Or.inr ⟨fun m hm => ?_, _, hinterpret⟩
    rw [hv] at hm
    cases hm

/-- **What `delete` stages.** On a Junos device whose candidate, if it has one, is disjoint, after
    any lines and edits, and wherever in the hierarchy the console stands, a line that begins with
    `delete` stages no route that was not staged before. It stages no interface that was not staged
    before, except for one that it takes a setting from. Where the interface that is to be removed
    or taken from its zone is missing, the line is answered with a warning and does nothing else.
    Where the one that a setting is to be taken from is missing, the line makes it, unconfigured,
    and is not answered. -/
theorem delete_stages_nothing_new (d : Device) (hf : d.family = .juniper)
    (hd : d.CandidateDisjoint) (actions : List (Inventory × Action)) (context : List Frame)
    (devices : Inventory) (line : String) (hword : (Text.words line).head? = some "delete") :
    let r := (d.run actions).within context
    let s := r.interpret devices line
    (∀ route ∈ s.stagedRoutes, route ∈ r.stagedRoutes) ∧
    (∀ name, s.stagedInterfaces.contains name = true →
      r.stagedInterfaces.contains name = true ∨ Unsets r line name) ∧
    (∀ name, r.stagedInterfaces.contains name = false → Removes r line name →
      s = (Dialect.echo line r).log notFound) ∧
    (∀ name, r.stagedInterfaces.contains name = false → Unsets r line name →
      s.stagedInterfaces = r.stagedInterfaces.insert name {} ∧
        s.history = (Dialect.echo line r).history) := by
  intro r s
  have hr : r.CandidateDisjoint := candidateDisjoint_run hf hd actions
  obtain ⟨help, heq⟩ := interpret_juniper (d := r) ((d.family_run actions).trans hf) devices line
  have hmissing : ∀ {name}, r.stagedInterfaces.contains name = false →
      r.stagedInterface? name = none := by
    intro name h
    rw [stagedInterface?_eq hr]
    exact SortedMap.contains_eq_false_iff.mp h
  rcases deletion_interpret hword help devices r with ⟨c, hv, hdeletion⟩ | ⟨hnone, text, htext⟩
  · rw [← heq] at hdeletion
    refine ⟨fun _ => hdeletion.routes_subset, fun name hname => ?_, fun name hno hremoves => ?_,
      fun name hno hunsets => ?_⟩
    · exact (hdeletion.staged_before hr hname).imp_right fun h => ⟨c, hv, h⟩
    · obtain ⟨c', hv', hc, hname⟩ := hremoves
      cases hv.symm.trans hv'
      exact hdeletion.eq_of_missing (Command.unsets_of_removes hc) hname (hmissing hno)
    · obtain ⟨c', hv', hc, hname⟩ := hunsets
      cases hv.symm.trans hv'
      exact hdeletion.appears_of_missing hc hname (hmissing hno) hr
  · rw [← heq] at htext
    refine ⟨?_, fun name hname => Or.inl ?_, ?_, ?_⟩
    · rw [show s = _ from htext]
      exact fun _ hroute => hroute
    · rw [show s = _ from htext] at hname
      exact hname
    · rintro name _ ⟨c, hv, _⟩
      exact absurd hv (hnone _)
    · rintro name _ ⟨c, hv, _⟩
      exact absurd hv (hnone _)

/-- Inside an interface that is not there (a rollback may have taken it away), `delete disable`
    makes it. At the top, the removal of the interface is answered. -/
theorem delete_stages_nothing_new_missing :
    let d : Device :=
      { id := "r1", name := "r1", kind := .router, vendor := .juniper, mode := .edit
        interfaces := SortedMap.ofList [("ge-0/0/0", {})] }
    let none : Inventory := SortedMap.empty
    let inside := (d.run []).within [⟨.interface, "ge-0/0/9"⟩]
    let top := (d.run []).within []
    (inside.interpret none "delete disable").stagedInterfaces =
      inside.stagedInterfaces.insert "ge-0/0/9" {} ∧
    top.interpret none "delete interfaces ge-0/0/9" =
      (Dialect.echo "delete interfaces ge-0/0/9" top).log notFound := by
  intro d none inside top
  have hd : d.CandidateDisjoint := candidateDisjoint_of_none rfl
  refine ⟨?_, ?_⟩
  · obtain ⟨_, _, _, happears⟩ := delete_stages_nothing_new d rfl hd []
      [⟨.interface, "ge-0/0/9"⟩] none "delete disable" (by decide)
    have hunsets : Unsets inside "delete disable" "ge-0/0/9" :=
      ⟨.setUp .edited true, by decide, rfl, by decide⟩
    exact (happears "ge-0/0/9" (by decide) hunsets).1
  · obtain ⟨_, _, hanswered, _⟩ := delete_stages_nothing_new d rfl hd [] [] none
      "delete interfaces ge-0/0/9" (by decide)
    have hremoves : Removes top "delete interfaces ge-0/0/9" "ge-0/0/9" :=
      ⟨.deleteInterface "ge-0/0/9", by decide, rfl, by decide⟩
    exact hanswered "ge-0/0/9" (by decide) hremoves

/-- A `delete` line makes an interface, and prints nothing behind the echo. -/
theorem delete_makes_interface :
    let d : Device := { id := "r1", name := "r1", kind := .router, vendor := .juniper }
    let none : Inventory := SortedMap.empty
    let r := d.run [(none, .line "configure")]
    let line := "delete interfaces ge-0/0/9 disable"
    let s := r.interpret none line
    d.candidate = Option.none ∧ r.mode = .edit ∧ (Text.words line).head? = some "delete" ∧
      r.stagedInterface? "ge-0/0/9" = Option.none ∧
      ¬ (∀ name, s.stagedInterfaces.contains name = true →
        r.stagedInterfaces.contains name = true) ∧
      s ≠ (Dialect.echo line r).log notFound ∧ s.candidate ≠ r.candidate := by
  intro d none r line s
  obtain ⟨hmode, hword, hmissing, hbefore, hafter, hsilent, hstaged⟩ :
      r.mode = .edit ∧ (Text.words line).head? = some "delete" ∧
        r.stagedInterface? "ge-0/0/9" = Option.none ∧
        r.stagedInterfaces.contains "ge-0/0/9" = false ∧
        s.stagedInterfaces.contains "ge-0/0/9" = true ∧
        s ≠ (Dialect.echo line r).log notFound ∧ s.candidate ≠ r.candidate := by
    decide
  refine ⟨rfl, hmode, hword, hmissing, fun h => ?_, hsilent, hstaged⟩
  have hthere := h "ge-0/0/9" hafter
  rw [hbefore] at hthere
  cases hthere

end TrainingLab.Junos
