import TrainingLab.Proofs.Dialect.Ios.Coherence
import TrainingLab.Proofs.Dialect.Junos.Deletion
import TrainingLab.Proofs.Dialect.Junos.Hierarchy

/-
  Which interface a line or an edit writes. A command has it from its own text, from the object
  that is open, or, on Junos, from what the staged view makes of a name and a unit; what is missing
  there is made. It is never more than one, and all other records stay as they are. On Junos this
  is about the staged view, which a commit does not change; only dropping what is staged can change
  several interfaces of it at once.

  Proved:
  * `Ios.writes_run`, `FortiOs.writes_run`, `PanOs.writes_run`, `Junos.sameBut_run`: the one
    interface that a command writes.
  * `Ios.table_interfaceMode`, `FortiOs.table_interfaceObject`, `Junos.table_interfaceFrame`: the
    rules that are there for an open interface have no other commands than settings of it.
  * `one_interface`: a line or an edit after any run of them.
-/

namespace TrainingLab

open Grammar Device

/-! ## Maps -/

/-- Only under the name can a record be new, changed or gone. -/
def SameBut (name? : Option String) (before after : SortedMap String Interface) : Prop :=
  ∀ other, name? ≠ some other → after.find? other = before.find? other

namespace SameBut

variable {m m' : SortedMap String Interface} {name? : Option String}

theorem of_eq (h : m' = m) : SameBut name? m m' := fun _ _ => h ▸ rfl

theorem of_none (h : SameBut none m m') : SameBut name? m m' :=
  fun other _ => h other nofun

theorem insert (m : SortedMap String Interface) (name : String) (i : Interface) :
    SameBut (some name) m (m.insert name i) := by
  intro other hother
  rw [SortedMap.find?_insert, if_neg fun heq => hother (congrArg some heq.symm)]

theorem erase (m : SortedMap String Interface) (name : String) :
    SameBut (some name) m (m.erase name) := by
  intro other hother
  rw [SortedMap.find?_erase, if_neg fun heq => hother (congrArg some heq.symm)]

/-- At most one name is written. -/
theorem exists_name (h : SameBut name? m m') :
    ∃ name, ∀ other, other ≠ name → m'.find? other = m.find? other := by
  cases name? with
  | none => exact ⟨"", fun other _ => h other nofun⟩
  | some name => exact ⟨name, fun other hne => h other fun heq => hne (Option.some.inj heq).symm⟩

end SameBut

/-! ## Commands that write what is live -/

/-- At most the live interface of the name is written, and nothing is staged. -/
structure Writes (name? : Option String) (d d' : Device) : Prop where
  interfaces : SameBut name? d.interfaces d'.interfaces
  candidate : d'.candidate = d.candidate

namespace Writes

variable {d d' : Device} {name? : Option String}

theorem of_same (hinterfaces : d'.interfaces = d.interfaces)
    (hcandidate : d'.candidate = d.candidate) : Writes name? d d' :=
  ⟨.of_eq hinterfaces, hcandidate⟩

theorem of_config (h : d'.config = d.config) : Writes name? d d' :=
  .of_same (eq_of_config Device.interfaces (fun _ => rfl) h)
    (eq_of_config Device.candidate (fun _ => rfl) h)

theorem of_forget (h : d'.forget = d.forget) : Writes name? d d' :=
  .of_config (config_eq_of_forget h)

theorem editInterface (d : Device) (name : String) (f : Interface → Interface) :
    Writes (some name) d (d.editInterface name f) :=
  ⟨.insert d.interfaces name _, rfl⟩

end Writes

namespace Ios

/-- The interface that the command writes. -/
def Command.writes? (d : Device) : Command → Option String
  | enterInterface name => some name
  | c => if c.setsInterface then d.frameName? .interface else none

theorem writes?_of_sets {c : Command} (h : c.setsInterface = true) (d : Device) :
    c.writes? d = d.frameName? .interface := by
  cases c with
  | enterInterface => cases h
  | _ => simp only [Command.writes?, h, if_true]

theorem writes_editInterface (f : Interface → Interface) (d : Device) :
    Writes (d.frameName? .interface) d (editInterface f d) := by
  unfold editInterface
  cases d.frameName? .interface with
  | some name => exact .editInterface d name f
  | none => exact .of_forget (forget_log d _)

theorem writes_setAccessVlan (id : String) (d : Device) :
    Writes (d.frameName? .interface) d (setAccessVlan id d) := by
  unfold setAccessVlan
  split
  next => exact .of_forget (forget_log d _)
  next v _ =>
    split
    next => exact .of_forget (forget_log d _)
    next =>
      -- the notice about a new VLAN leaves interfaces and objects alone
      obtain ⟨hframe, hinterfaces, hcandidate⟩ :
          (noticeVlan v d).frameName? .interface = d.frameName? .interface ∧
            (noticeVlan v d).interfaces = d.interfaces ∧
            (noticeVlan v d).candidate = d.candidate := by
        unfold noticeVlan
        split <;> exact ⟨rfl, rfl, rfl⟩
      have h := writes_editInterface (fun i => i.setVlan (some v)) (noticeVlan v d)
      rw [hframe] at h
      exact ⟨hinterfaces ▸ h.interfaces, h.candidate.trans hcandidate⟩

theorem writes_run (c : Command) (devices : Inventory) (d : Device) :
    Writes (c.writes? d) d (c.run devices d) := by
  cases c with
  | accept | enable | disable | configure | setHostname | enterRouter => exact .of_same rfl rfl
  | exit => exact .of_config (config_exitMode d)
  | leave =>
    rw [Command.run]
    split <;> exact .of_same rfl rfl
  | enterInterface name => exact ⟨.insert d.interfaces name _, rfl⟩
  | enterVlan id =>
    rw [Command.run, enterVlan]
    split <;> exact .of_same rfl rfl
  | addRoute ip mask nextHop =>
    rw [Command.run, addRoute]
    split <;> exact .of_same rfl rfl
  | removeRoute ip mask nextHop =>
    rw [Command.run, removeRoute]
    split <;> exact .of_same rfl rfl
  | removeVlan id =>
    rw [Command.run]
    split <;> exact .of_same rfl rfl
  | nameVlan name =>
    rw [Command.run, nameVlan]
    split <;> exact .of_same rfl rfl
  | setAddress | clearAddress | setUp | setDescription | clearAccessVlan | setZone =>
    exact writes_editInterface _ d
  | setAccessVlan id => exact writes_setAccessVlan id d
  | _ => exact .of_forget (forget_run_of_inspects rfl devices d)

/-- In the mode of an interface, the rules of that mode set it or are accepted without effect. -/
theorem table_interfaceMode : ∀ r ∈ table, r.modes ≠ [.configInterface] ∨
    ∀ caps, ∃ c, r.meaning caps = .command c ∧ (c.setsInterface = true ∨ c = .accept) := by
  simp only [table, List.forall_mem_cons]
  repeat first
    | apply And.intro (Or.inl (by decide))
    | apply And.intro (Or.inr fun _ => ⟨_, rfl, Or.inl rfl⟩)
    | apply And.intro (Or.inr fun _ => ⟨_, rfl, Or.inr rfl⟩)
  exact List.forall_mem_nil _

end Ios

namespace FortiOs

/-- The interface that the command writes. -/
def Command.writes? (d : Device) : Command → Option String
  | openInterface name => some (Text.unquote name)
  | deleteInterface name => some (Text.unquote name)
  | c => if c.sets? = some .interface then d.frameName? .interface else none

theorem writes?_of_sets {c : Command} (h : c.sets? = some .interface) (d : Device) :
    c.writes? d = d.frameName? .interface := by
  cases c with
  | openInterface | deleteInterface => cases h
  | _ => simp only [Command.writes?, h, if_true]

theorem writes_editInterface (f : Interface → Interface) (d : Device) :
    Writes (d.frameName? .interface) d (editInterface f d) := by
  unfold editInterface
  cases d.frameName? .interface with
  | some name => exact .editInterface d name f
  | none => exact .of_forget (forget_log d _)

/-- A setting of another object than an interface writes none. -/
theorem Setting.writes {k : ObjectKind} {f : Device → Device} (h : Setting k f) (d : Device) :
    Writes (if k = .interface then d.frameName? .interface else none) d (f d) := by
  cases h with
  | rejected _ => exact .of_forget (forget_log d _)
  | interface f => exact writes_editInterface f d
  | policy _ =>
    rw [if_neg (by decide), editPolicy]
    split
    next =>
      split
      next => exact .of_same rfl rfl
      next => exact .of_forget (forget_log d _)
    next => exact .of_forget (forget_log d _)
  | route f =>
    rw [if_neg (by decide), editRoute]
    split
    next =>
      split
      next => exact .of_same rfl rfl
      next => exact .of_forget (forget_log d _)
    next => exact .of_forget (forget_log d _)

theorem writes_run (c : Command) (devices : Inventory) (d : Device) :
    Writes (c.writes? d) d (c.run devices d) := by
  cases c with
  | accept | openSection | leave => exact .of_same rfl rfl
  | next =>
    rw [Command.run]
    split <;> exact .of_same rfl rfl
  | openInterface name => exact ⟨.insert d.interfaces _ _, rfl⟩
  | deleteInterface name =>
    rw [Command.run, deleteInterface]
    split
    next => exact ⟨.erase d.interfaces _, rfl⟩
    next => exact .of_forget (forget_log d _)
  | openPolicy id =>
    rw [Command.run]
    rcases openPolicy_cases id d with h | ⟨_, _, h⟩ | ⟨_, _, h⟩
    all_goals
      rw [h]
      exact .of_same rfl rfl
  | openRoute position =>
    rw [Command.run, openRoute]
    split
    next => exact .of_same rfl rfl
    next => split <;> exact .of_same rfl rfl
  | deletePolicy id =>
    rw [Command.run, deletePolicy]
    split <;> exact .of_same rfl rfl
  | deleteRoute position =>
    rw [Command.run, deleteRoute]
    split
    next => split <;> exact .of_same rfl rfl
    next => exact .of_same rfl rfl
  | setAddress | setCidr | clearAddress | setStatus | setAlias | setZone =>
    exact (setting_run (k := .interface) rfl devices).writes d
  | setName | setFromZone | setToZone | setSource | setDestinationAddress | setAction
  | setService => exact (setting_run (k := .policy) rfl devices).writes d
  | setDestination | setDestinationPrefix | setGateway | setDevice =>
    exact (setting_run (k := .route) rfl devices).writes d
  | _ => exact .of_forget (forget_run_of_inspects rfl devices d)

/-- Inside an interface, the rules for one set it, show it or are accepted without effect. -/
theorem table_interfaceObject : ∀ r ∈ table, r.scope ≠ .inObject interfaces ∨
    ∀ caps, ∃ c, r.meaning caps = .command c ∧
      (c.sets? = some .interface ∨ c = .accept ∨ c = .showOpen) := by
  simp only [table, List.forall_mem_cons]
  repeat first
    | apply And.intro (Or.inl (by decide))
    | apply And.intro (Or.inr fun _ => ⟨_, rfl, Or.inl rfl⟩)
    | apply And.intro (Or.inr fun _ => ⟨_, rfl, Or.inr (Or.inl rfl)⟩)
    | apply And.intro (Or.inr fun _ => ⟨_, rfl, Or.inr (Or.inr rfl)⟩)
  exact List.forall_mem_nil _

end FortiOs

namespace PanOs

/-- The interface that the command writes. -/
def Command.writes? : Command → Option String
  | setAddress interface _ => some interface
  | setZone interface _ => some interface
  | _ => none

theorem writes_run (c : Command) (devices : Inventory) (d : Device) :
    Writes c.writes? d (c.run devices d) := by
  cases c with
  | accept | configure | exit | setHostname | addRoute => exact .of_same rfl rfl
  | setAddress interface cidr => exact ⟨.insert d.interfaces interface _, rfl⟩
  | setZone interface zone => exact ⟨.insert d.interfaces interface _, rfl⟩
  | setRule name field value =>
    rw [Command.run, setRule]
    split
    next => exact .of_same rfl rfl
    next =>
      split
      next => exact .of_same rfl rfl
      next => split <;> exact .of_same rfl rfl
  | deleteRule name =>
    rw [Command.run, deleteRule]
    split <;> exact .of_same rfl rfl
  | _ => exact .of_forget (forget_run_of_inspects rfl devices d)

end PanOs

/-! ## Commands that write the staged view -/

/-- The interface that a change is about. -/
def Change.name? : Change → Option String
  | .interface name _ => some name
  | .removal name => some name
  | .routes _ => none
  | .hostname _ => none

namespace Junos

/-- The unit that the command is about. -/
def Command.unit? : Command → Option String
  | setAddress _ unit _ => unit
  | clearAddress _ unit => unit
  | _ => none

/-- The staged interface that the command writes. -/
def Command.writes? (d : Device) : Command → Option String
  | editInterface name => some (resolve d name none)
  | setAddress target unit _ => (target.name? d).map fun name => resolve d name unit
  | setZone interface _ => some (resolve d interface none)
  | setEditedZone interface => (d.frameName? .zone).map fun _ => resolve d interface none
  | c => c.addressed? d

/-- The command drops what is staged. -/
def Command.drops (d : Device) : Command → Bool
  | rollback => true
  | leave => true
  | exit => d.context.isEmpty
  | _ => false

variable {d : Device}

theorem sameBut_of_config {d' : Device} {name? : Option String} (h : d'.config = d.config) :
    SameBut name? d.stagedInterfaces d'.stagedInterfaces :=
  .of_eq (eq_of_config stagedInterfaces (fun _ => rfl) h)

/-- A change writes the interface that it is about. -/
theorem sameBut_staged (d : Device) (change : Change) :
    SameBut change.name? d.stagedInterfaces (d.stage change).stagedInterfaces := by
  rw [stagedInterfaces_stage]
  cases change with
  | interface name edit => exact .insert d.stagedInterfaces name _
  | removal name => exact .erase d.stagedInterfaces name
  | routes | hostname => exact .of_eq rfl

/-- What a statement stages is about the interface that the statement writes. -/
theorem name?_of_change? {c : Command} {change : Change} (h : c.change? d = some change) :
    change.name? = c.writes? d := by
  cases c with
  | setAddress target | clearAddress target | describe target | setUp target =>
    obtain ⟨name, hname, rfl⟩ := Option.map_eq_some_iff.mp h
    simp only [Command.writes?, Command.addressed?, hname]
    rfl
  | deleteInterface | clearZone =>
    obtain ⟨name, hthere, rfl⟩ := Option.map_eq_some_iff.mp h
    exact congrArg some (eq_resolve_of_present? hthere)
  | setEditedZone =>
    obtain ⟨zone, hzone, rfl⟩ := Option.map_eq_some_iff.mp h
    simp only [Command.writes?, hzone]
    rfl
  | clearEditedZone =>
    obtain ⟨zone, hzone, hreleased⟩ := Option.bind_eq_some_iff.mp h
    obtain ⟨name, hthere, rfl⟩ := Option.map_eq_some_iff.mp hreleased
    simp only [Command.writes?, Command.addressed?, hzone]
    exact congrArg some (eq_resolve_of_present? hthere)
  | addEditedRoute =>
    obtain ⟨destination, _, rfl⟩ := Option.map_eq_some_iff.mp h
    rfl
  | deleteRoute =>
    obtain ⟨_, hremoved⟩ := Option.ite_none_right_eq_some.mp h
    cases hremoved
    rfl
  | setZone | addRoute | setHostname =>
    cases h
    rfl
  | _ => cases h

/-- The staged view is the same after a commit, when it is live. -/
theorem stagedInterfaces_commit (d : Device) :
    d.commit.1.stagedInterfaces = d.stagedInterfaces := by
  have hlive : d.commit.1.interfaces = d.stagedInterfaces :=
    congrArg WorkingCopy.interfaces (liveView_commit d)
  rw [stagedInterfaces, candidate_commit]
  exact hlive

/-- Leaving changes nothing once it is committed. -/
theorem stagedInterfaces_leave_commit (d : Device) :
    (leave (commit d)).stagedInterfaces = d.stagedInterfaces := by
  have hconfig : (leave (commit d)).config = d.commit.1.config := by
    have hnone : (commit d).hasPendingChanges = false := by
      rw [hasPendingChanges, show (commit d).candidate = none from candidate_commit d]
    rw [config_leave, hnone]
    rfl
  rw [eq_of_config stagedInterfaces (fun _ => rfl) hconfig, stagedInterfaces_commit]

/-- A command that does not drop what is staged writes at most one staged interface. -/
theorem sameBut_run {c : Command} (h : c.drops d = false) (devices : Inventory) :
    SameBut (c.writes? d) d.stagedInterfaces (c.run devices d).stagedInterfaces := by
  by_cases hstates : c.isStatement = true
  · exact statement_induction hstates devices
      (P := fun d' => SameBut (c.writes? d) d.stagedInterfaces d'.stagedInterfaces)
      (fun change hchange => name?_of_change? hchange ▸ sameBut_staged d change)
      fun text => sameBut_of_config (config_log d text)
  cases c with
  | accept | configure | ascend | top | editObject => exact sameBut_of_config rfl
  | exit =>
    rw [Command.drops] at h
    rw [Command.run, h]
    exact sameBut_of_config (config_pop d)
  | leave | rollback => cases h
  | commit => exact .of_eq (stagedInterfaces_commit d)
  | commitAndQuit => exact .of_eq (stagedInterfaces_leave_commit d)
  | editInterface name => exact sameBut_staged d (.interface (resolve d name none) id)
  | setAddress | clearAddress | describe | setUp | deleteInterface | setZone | clearZone
  | setEditedZone | clearEditedZone | addRoute | addEditedRoute | deleteRoute | setHostname =>
    exact absurd rfl hstates
  | _ => exact sameBut_of_config (config_eq_of_forget (forget_run_of_inspects rfl devices d))

/-- Inside an interface, the rules for one set it. -/
theorem table_interfaceFrame : ∀ r ∈ table, r.scope ≠ .frame .interface ∨
    ∀ caps, ∃ c, r.meaning caps = .command c ∧ c.edits? = some .interface := by
  simp only [table, List.forall_mem_cons]
  repeat first
    | apply And.intro (Or.inl (by decide))
    | apply And.intro (Or.inr fun _ => ⟨_, rfl, rfl⟩)
  exact List.forall_mem_nil _

/-- A setting of the interface being edited writes that one, resolved with its unit. -/
theorem writes?_of_edits {c : Command} (h : c.edits? = some .interface) :
    c.writes? d = (d.frameName? .interface).map fun name => resolve d name c.unit? := by
  cases c with
  | setAddress target | clearAddress target | describe target | setUp target =>
    cases target with
    | edited => rfl
    | named => cases h
  | _ => cases h

end Junos

/-! ## Lines -/

namespace Dialect

variable {κ : Type} {l : Dialect κ} {d : Device} {line : String}

/-- The line means a command, and the rule decides so. -/
structure Means (l : Dialect κ) (d : Device) (line : String) (r : Rule (Request κ)) (c : κ) :
    Prop where
  rule : l.table.find? (Rule.fits d.mode d.context (Text.words line)) = some r
  command : l.verdict? line d = some (.done (.command c))

theorem Means.of_rule {r : Rule (Request κ)} {c : κ} (h : l.Means d line r c) {Q : κ → Prop}
    (hrule : ∀ caps, ∃ c', r.meaning caps = .command c' ∧ Q c') : Q c := by
  have hdone := dispatch_of_verdict? h.command
  rw [Text.words_trim] at hdone
  obtain ⟨r', caps, hr', _, hc⟩ := dispatch_done_iff.mp hdone
  cases h.rule.symm.trans hr'
  obtain ⟨c', hc', hholds⟩ := hrule caps
  cases hc.trans hc'
  exact hholds

theorem Means.mem_table {r : Rule (Request κ)} {c : κ} (h : l.Means d line r c) : r ∈ l.table :=
  List.mem_of_find?_eq_some h.rule

theorem interpret_of_verdict? (hspeaks : l.Speaks d) {c : κ}
    (h : l.verdict? line d = some (.done (.command c))) (devices : Inventory) :
    d.interpret devices line = l.run devices c (echo line d) := by
  obtain ⟨help, hinterpret⟩ := hspeaks
  rw [hinterpret]
  exact interpret_of_some h help devices

/-- A line that means no command of its own changes no configuration. -/
theorem config_of_no_command (hspeaks : l.Speaks d) (hcarries : l.CarriesSafely)
    (h : ∀ c, l.verdict? line d ≠ some (.done (.command c))) (devices : Inventory) :
    (d.interpret devices line).config = d.config := by
  obtain ⟨help, hinterpret⟩ := hspeaks
  rw [hinterpret]
  cases hv : l.verdict? line d with
  | none =>
    obtain ⟨texts, htexts⟩ := interpret_of_none hv help devices
    rw [htexts, config_logAll]
  | some v =>
    cases v with
    | done m =>
      cases m with
      | command c => exact absurd hv (h c)
      | carried text =>
        exact config_eq_of_forget
          (hcarries.forget_interpret (by rw [carried?, hv]) help devices)
    | incomplete | unknown =>
      rw [interpret_of_some hv]
      exact config_log _ _

end Dialect

variable {d : Device} {line : String}

/-- What a command writes behind the echo of its line. -/
theorem Writes.of_echo {d' : Device} {name? : Option String}
    (h : Writes name? (Dialect.echo line d) d') : Writes name? d d' :=
  ⟨h.interfaces, h.candidate⟩

theorem exists_writes {κ : Type} {l : Dialect κ} (writes? : Device → κ → Option String)
    (hspeaks : l.Speaks d) (hcarries : l.CarriesSafely)
    (hrun : ∀ c devices d, Writes (writes? d c) d (l.run devices c d)) (devices : Inventory)
    (line : String) : ∃ name?, Writes name? d (d.interpret devices line) := by
  by_cases h : ∃ c, l.verdict? line d = some (.done (.command c))
  · obtain ⟨c, hc⟩ := h
    rw [Dialect.interpret_of_verdict? hspeaks hc]
    exact ⟨_, (hrun c devices _).of_echo⟩
  · exact ⟨none, .of_config
      (Dialect.config_of_no_command hspeaks hcarries (fun c hc => h ⟨c, hc⟩) devices)⟩

/-- Where lines write what is live, one writes at most one interface. -/
theorem exists_writes_interpret (h : d.family ≠ .juniper) (devices : Inventory) (line : String) :
    ∃ name?, Writes name? d (d.interpret devices line) := by
  cases hfamily : d.family with
  | cisco =>
    exact exists_writes (fun d c => c.writes? d) (Ios.speaks hfamily) Ios.carriesSafely
      Ios.writes_run devices line
  | juniper => exact absurd hfamily h
  | fortinet =>
    exact exists_writes (fun d c => c.writes? d) (FortiOs.speaks hfamily) FortiOs.carriesSafely
      FortiOs.writes_run devices line
  | paloAlto =>
    exact exists_writes (fun _ c => c.writes?) (PanOs.speaks hfamily) PanOs.carriesSafely
      PanOs.writes_run devices line
  | cloud =>
    refine ⟨none, .of_config (config_interpret_of_operational ?_ devices line)⟩
    rw [Operational, hfamily]
    trivial

/-! ## Edits -/

theorem exists_writes_applyEdit (h : d.family ≠ .juniper) (hlive : d.candidate = none)
    (e : GuiEdit) : ∃ name?, Writes name? d (d.applyEdit e) := by
  cases e with
  | interface name e =>
    have hstages : d.stagesEdits = false := by simp [stagesEdits, h]
    rw [applyEdit, applyInterfaceEdit]
    split
    next => exact ⟨none, .of_forget (forget_log d _)⟩
    next =>
      rw [hstages]
      exact ⟨some name, .insert d.interfaces name _, rfl⟩
  | commit =>
    have hcommit : d.commit.1.config = d.config := by
      have hnone : d.hasPendingChanges = false := by rw [hasPendingChanges, hlive]
      have hdiscard : d.discard = d := by cases d; cases hlive; rfl
      rw [commit, hnone]
      exact congrArg config hdiscard
    exact ⟨none, .of_config ((config_log d.commit.1 _).trans hcommit)⟩

/-- Where edits are staged, one writes at most one interface. -/
theorem exists_sameBut_applyEdit (h : d.family = .juniper) (e : GuiEdit) :
    ∃ name?, SameBut name? d.stagedInterfaces (d.applyEdit e).stagedInterfaces := by
  cases e with
  | interface name e =>
    have hstages : d.stagesEdits = true := by rw [stagesEdits, h]; rfl
    rw [applyEdit, applyInterfaceEdit]
    split
    next => exact ⟨none, Junos.sameBut_of_config (config_log d _)⟩
    next =>
      rw [hstages]
      exact ⟨some name, Junos.sameBut_staged d (.interface name e.apply)⟩
  | commit => exact ⟨none, .of_eq (Junos.stagedInterfaces_commit d)⟩

/-! ## Runs -/

/-- Where nothing is ever staged, there is no candidate. -/
theorem candidate_run (h : d.family ≠ .juniper) (hlive : d.candidate = none)
    (actions : List (Inventory × Action)) : (d.run actions).candidate = none := by
  induction actions generalizing d with
  | nil => exact hlive
  | cons i rest ih =>
    refine ih (by rw [i.2.family_apply]; exact h) ?_
    obtain ⟨name?, hwrites⟩ : ∃ name?, Writes name? d (i.2.apply i.1 d) := by
      cases i.2 with
      | line text => exact exists_writes_interpret h i.1 text
      | edit e => exact exists_writes_applyEdit h hlive e
    exact hwrites.candidate.trans hlive

/-- The interfaces that lines and edits are about: what is staged on Junos, and what is live
    elsewhere. -/
def Device.editedInterfaces (d : Device) : SortedMap String Interface :=
  match d.family with
  | .juniper => d.stagedInterfaces
  | _ => d.interfaces

theorem editedInterfaces_of_juniper (h : d.family = .juniper) :
    d.editedInterfaces = d.stagedInterfaces := by
  rw [editedInterfaces, h]

theorem editedInterfaces_of_live (h : d.family ≠ .juniper) : d.editedInterfaces = d.interfaces := by
  unfold editedInterfaces
  split
  next hjuniper => exact absurd hjuniper h
  next => rfl

/-- The action drops what is staged: it is a line that rolls back or leaves the configuration mode
    of Junos. -/
def Action.Drops (d : Device) : Action → Prop
  | .line text => d.family = .juniper ∧
      ∃ c : Junos.Command, Junos.dialect.verdict? text d = some (.done (.command c)) ∧
        c.drops d = true
  | .edit _ => False

/-- The line is a setting of the interface that is open, if one is: by a rule for the mode of an
    interface on IOS, for an object of the section of interfaces on FortiOS, and for the frame of an
    interface on Junos. There the name is resolved with the unit of the line. -/
inductive SetsOpen (d : Device) (line : String) : Option String → Prop
  | ios (hfamily : d.family = .cisco) {r : Rule (Request Ios.Command)} {c : Ios.Command}
      (h : Ios.dialect.Means d line r c) (hrule : r.modes = [.configInterface]) :
      SetsOpen d line (d.frameName? .interface)
  | fortiOs (hfamily : d.family = .fortinet) {r : Rule (Request FortiOs.Command)}
      {c : FortiOs.Command} (h : FortiOs.dialect.Means d line r c)
      (hrule : r.scope = .inObject FortiOs.interfaces) :
      SetsOpen d line (d.frameName? .interface)
  | junos (hfamily : d.family = .juniper) {r : Rule (Request Junos.Command)} {c : Junos.Command}
      (h : Junos.dialect.Means d line r c) (hrule : r.scope = .frame .interface) :
      SetsOpen d line
        ((d.frameName? .interface).map fun name => Junos.resolve d name c.unit?)

theorem sameBut_setsOpen {name? : Option String} (h : SetsOpen d line name?)
    (devices : Inventory) :
    SameBut name? d.editedInterfaces (d.interpret devices line).editedInterfaces := by
  have hkept : (d.interpret devices line).family = d.family :=
    Action.family_apply devices (.line line) d
  cases h with
  | @ios hfamily r c h hrule =>
    have hlive : d.family ≠ .juniper := by rw [hfamily]; decide
    rw [editedInterfaces_of_live hlive, editedInterfaces_of_live (hkept ▸ hlive)]
    have hwrites := (Ios.writes_run c devices (Dialect.echo line d)).of_echo.interfaces
    rw [Dialect.interpret_of_verdict? (Ios.speaks hfamily) h.command]
    rcases h.of_rule ((Ios.table_interfaceMode r h.mem_table).resolve_left (absurd hrule)) with
      hsets | rfl
    · rw [Ios.writes?_of_sets hsets] at hwrites
      exact hwrites
    · exact hwrites.of_none
  | @fortiOs hfamily r c h hrule =>
    have hlive : d.family ≠ .juniper := by rw [hfamily]; decide
    rw [editedInterfaces_of_live hlive, editedInterfaces_of_live (hkept ▸ hlive)]
    have hwrites := (FortiOs.writes_run c devices (Dialect.echo line d)).of_echo.interfaces
    rw [Dialect.interpret_of_verdict? (FortiOs.speaks hfamily) h.command]
    rcases h.of_rule ((FortiOs.table_interfaceObject r h.mem_table).resolve_left
      (absurd hrule)) with hsets | rfl | rfl
    · rw [FortiOs.writes?_of_sets hsets] at hwrites
      exact hwrites
    · exact hwrites.of_none
    · exact hwrites.of_none
  | @junos hfamily r c h hrule =>
    rw [editedInterfaces_of_juniper hfamily, editedInterfaces_of_juniper (hkept.trans hfamily),
      Dialect.interpret_of_verdict? (Junos.speaks hfamily) h.command]
    have hsets := h.of_rule ((Junos.table_interfaceFrame r h.mem_table).resolve_left
      (absurd hrule))
    have hkeeps : c.drops (Dialect.echo line d) = false := by
      cases c <;> first | rfl | cases hsets
    have hwrites := Junos.sameBut_run hkeeps devices
    rw [Junos.writes?_of_edits hsets] at hwrites
    exact hwrites

/-- A line that does not drop what is staged writes at most one interface. -/
theorem exists_sameBut_interpret (h : ¬ (Action.line line).Drops d) (devices : Inventory) :
    ∃ name?, SameBut name? d.editedInterfaces (d.interpret devices line).editedInterfaces := by
  have hkept : (d.interpret devices line).family = d.family :=
    Action.family_apply devices (.line line) d
  by_cases hfamily : d.family = .juniper
  · rw [editedInterfaces_of_juniper hfamily, editedInterfaces_of_juniper (hkept.trans hfamily)]
    by_cases hcommand : ∃ c, Junos.dialect.verdict? line d = some (.done (.command c))
    · obtain ⟨c, hc⟩ := hcommand
      have hkeeps : c.drops (Dialect.echo line d) = false :=
        Bool.eq_false_iff.mpr fun hdrops => h ⟨hfamily, c, hc, hdrops⟩
      rw [Dialect.interpret_of_verdict? (Junos.speaks hfamily) hc]
      exact ⟨_, Junos.sameBut_run hkeeps devices⟩
    · exact ⟨none, Junos.sameBut_of_config (Dialect.config_of_no_command (Junos.speaks hfamily)
        Junos.carriesSafely (fun c hc => hcommand ⟨c, hc⟩) devices)⟩
  · rw [editedInterfaces_of_live hfamily, editedInterfaces_of_live (hkept ▸ hfamily)]
    obtain ⟨name?, hwrites⟩ := exists_writes_interpret hfamily devices line
    exact ⟨name?, hwrites.interfaces⟩

/-- **One interface at a time.** After any lines and edits on a device without a candidate, one
    more line or edit writes at most one interface: all others are as before, in the staged view on
    Junos and live elsewhere, unless the line drops what is staged. A line that is a setting of the
    interface that is open writes that one alone. -/
theorem one_interface (d : Device) (hlive : d.candidate = none)
    (before : List (Inventory × Action)) (devices : Inventory) (a : Action) :
    let r := d.run before
    let r' := a.apply devices r
    (¬ a.Drops r → ∃ name, ∀ other, other ≠ name →
      r'.editedInterfaces.find? other = r.editedInterfaces.find? other) ∧
    ∀ line name?, a = .line line → SetsOpen r line name? → ∀ other, name? ≠ some other →
      r'.editedInterfaces.find? other = r.editedInterfaces.find? other := by
  intro r r'
  refine ⟨fun hkeeps => ?_, ?_⟩
  · have hkept : r'.family = r.family := a.family_apply devices r
    cases a with
    | line text =>
      obtain ⟨name?, hsame⟩ := exists_sameBut_interpret hkeeps devices
      exact hsame.exists_name
    | edit e =>
      by_cases hfamily : r.family = .juniper
      · rw [editedInterfaces_of_juniper hfamily, editedInterfaces_of_juniper (hkept.trans hfamily)]
        obtain ⟨name?, hsame⟩ := exists_sameBut_applyEdit hfamily e
        exact hsame.exists_name
      · rw [editedInterfaces_of_live hfamily, editedInterfaces_of_live (hkept ▸ hfamily)]
        have hd : d.family ≠ .juniper := by rwa [← d.family_run before]
        obtain ⟨name?, hwrites⟩ := exists_writes_applyEdit hfamily (candidate_run hd hlive before) e
        exact hwrites.interfaces.exists_name
  · rintro line name? rfl hsets
    exact sameBut_setsOpen hsets devices

/-- A Junos router that is being configured, with a logical interface. -/
def routerWithUnit : Device :=
  { id := "r1", name := "r1", kind := .router, vendor := .juniper, mode := .edit
    interfaces := SortedMap.ofList [("ge-0/0/0", {}), ("ge-0/0/0.0", {}), ("ge-0/0/1", {})] }

/-- Inside an interface, a statement with a unit writes the logical interface of that unit alone. -/
theorem one_interface_unit :
    let r := routerWithUnit.run [(SortedMap.empty, .line "edit interfaces ge-0/0/0")]
    let line := "set unit 0 family inet address 10.0.0.1/24"
    let r' := r.interpret SortedMap.empty line
    routerWithUnit.candidate = none ∧ ¬ (Action.line line).Drops r ∧
    SetsOpen r line (some "ge-0/0/0.0") ∧
    (∃ name, ∀ other, other ≠ name →
      r'.editedInterfaces.find? other = r.editedInterfaces.find? other) ∧
    ∀ other, some "ge-0/0/0.0" ≠ some other →
      r'.editedInterfaces.find? other = r.editedInterfaces.find? other := by
  intro r line r'
  obtain ⟨hmode, hcontext, hname⟩ : r.mode = .edit ∧ r.context = [⟨.interface, "ge-0/0/0"⟩] ∧
      Junos.resolve r "ge-0/0/0" (some "0") = "ge-0/0/0.0" := by decide
  have hverdict : Junos.dialect.verdict? line r =
      some (.done (.command (.setAddress .edited (some "0") "10.0.0.1/24"))) := by
    rw [Dialect.verdict?, hmode, hcontext]
    decide
  have hrule : (Junos.table.find? (Rule.fits r.mode r.context (Text.words line))).map
      Rule.scope = some (.frame .interface) := by
    rw [hmode, hcontext]
    decide
  have hkeeps : ¬ (Action.line line).Drops r := by
    rintro ⟨-, c, hc, hdrops⟩
    cases hverdict.symm.trans hc
    cases hdrops
  have hsets : SetsOpen r line (some "ge-0/0/0.0") := by
    obtain ⟨rule, hfind, hscope⟩ := Option.map_eq_some_iff.mp hrule
    have hframe : r.frameName? .interface = some "ge-0/0/0" := frameName?_of_cons hcontext
    have h := SetsOpen.junos (d := r) rfl ⟨hfind, hverdict⟩ hscope
    rwa [Junos.Command.unit?, hframe, Option.map_some, hname] at h
  have hlaws := one_interface routerWithUnit rfl
    [(SortedMap.empty, .line "edit interfaces ge-0/0/0")] SortedMap.empty (.line line)
  exact ⟨rfl, hkeeps, hsets, hlaws.1 hkeeps, hlaws.2 line _ rfl hsets⟩

end TrainingLab
