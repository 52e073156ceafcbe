import TrainingLab.Proofs.Dialect.Inspection
import TrainingLab.Proofs.Dialect.Typing

/-
  The configuration hierarchy of Junos. Interfaces, zones, routes, protocols and VLANs are opened
  from the top only; inside anything, `edit` opens a section. So an object other than a section is
  the outermost one, and a statement about the object being edited, which the table takes only if
  the innermost object is of its kind, finds that object alone on the stack.

  Proved:
  * `suited_of_done`: where in the hierarchy the table takes which command.
  * `placed_run`, `placed_apply`, `placed_runAll`: no command, action or run takes the console
    where it cannot be.
  * `run_about`, `run_of_none`: a statement about the object being edited is the statement that
    names it, and is turned down only if there is none.
  * `leads_exits_inside`, `leads_exits_outside`: `exit` lines close one object each, and then leave.
  * `hierarchy_navigation`: all of it, for every run from the operational mode.
-/

namespace TrainingLab

open Grammar Device

/-- A line has the console carry out a command on a device: on its own, or in the mode and at the
    level where carried lines run. -/
inductive Dialect.CarriesOut {κ : Type} (l : Dialect κ) (d : Device) (line : String) :
    κ → Device → Prop
  | entered {c : κ} (h : l.verdict? line d = some (.done (.command c))) :
      CarriesOut l d line c (Dialect.echo line d)
  | carried {c : κ} {text : String} (h : l.verdict? line d = some (.done (.carried text)))
      (hc : dispatch l.carriedMode [] (Text.words text) l.table = .done (.command c)) :
      CarriesOut l d line c (((Dialect.echo line d).enter l.carriedMode).within [])

namespace Junos

variable {d : Device}

/-! ## Places -/

/-- Every object but the outermost is a section. -/
def SectionsInside (context : List Frame) : Prop :=
  ∀ f ∈ context.dropLast, f.kind = .configSection

/-- Where the console of a device can be: at the top in the operational mode, or inside some
    objects in the configuration mode. -/
inductive Placed : Mode → List Frame → Prop
  | user : Placed .user []
  | edit {context : List Frame} (h : SectionsInside context) : Placed .edit context

theorem sectionsInside_nil : SectionsInside [] := fun _ hf => nomatch hf

theorem SectionsInside.tail {context : List Frame} (h : SectionsInside context) :
    SectionsInside context.tail := by
  intro f hf
  rw [← List.tail_dropLast] at hf
  exact h f (List.mem_of_mem_tail hf)

/-- A section may be opened anywhere, another object at the top. -/
theorem SectionsInside.push {context : List Frame} (h : SectionsInside context) {f : Frame}
    (hf : f.kind ≠ .configSection → context = []) : SectionsInside (f :: context) := by
  cases context with
  | nil => exact fun _ he => nomatch he
  | cons g rest =>
    intro e he
    rcases List.mem_cons.mp he with rfl | hrest
    · exact Decidable.byContradiction fun hkind => nomatch hf hkind
    · exact h e hrest

/-- An innermost object that is no section is the only one. -/
theorem SectionsInside.eq_singleton {f : Frame} {rest : List Frame}
    (h : SectionsInside (f :: rest)) (hf : f.kind ≠ .configSection) : rest = [] := by
  cases rest with
  | nil => rfl
  | cons g rest => exact absurd (h f List.mem_cons_self) hf

namespace Placed

variable {mode : Mode} {context : List Frame}

theorem mode_eq (h : Placed mode context) : mode = .user ∨ mode = .edit := by
  cases h with
  | user => exact Or.inl rfl
  | edit => exact Or.inr rfl

theorem eq_nil (h : Placed mode context) (hmode : mode ≠ .edit) : context = [] := by
  cases h with
  | user => rfl
  | edit => exact absurd rfl hmode

theorem sectionsInside (h : Placed mode context) : SectionsInside context := by
  cases h with
  | user => exact sectionsInside_nil
  | edit h => exact h

end Placed

/-! ## Commands that stay -/

/-- The console stays in its mode and inside the same objects. -/
structure StaysPut (d d' : Device) : Prop where
  mode : d'.mode = d.mode
  context : d'.context = d.context

theorem Placed.stay {d' : Device} (h : Placed d.mode d.context) (hstay : StaysPut d d') :
    Placed d'.mode d'.context := by
  rw [hstay.mode, hstay.context]
  exact h

namespace StaysPut

theorem of_forget {d' : Device} (h : d'.forget = d.forget) : StaysPut d d' :=
  ⟨eq_of_forget Device.mode (fun _ => rfl) h, eq_of_forget Device.context (fun _ => rfl) h⟩

theorem printed (d : Device) (texts : List String) : StaysPut d (d.logAll texts) :=
  of_forget (forget_logAll d texts)

theorem logged (d : Device) (text : String) : StaysPut d (d.log text) := ⟨rfl, rfl⟩

theorem staged (d : Device) (change : Change) : StaysPut d (d.stage change) := by
  rw [stage_eq_candidate]
  exact ⟨rfl, rfl⟩

theorem commit (d : Device) : StaysPut d d.commit.1 := by
  rw [Device.commit_eq]
  exact ⟨rfl, rfl⟩

theorem applyEdit (e : GuiEdit) (d : Device) : StaysPut d (d.applyEdit e) := by
  cases e with
  | interface name e =>
    unfold Device.applyEdit Device.applyInterfaceEdit
    dsimp only
    split
    next => exact logged d _
    next => split <;> exact ⟨rfl, rfl⟩
  | commit => exact ⟨(StaysPut.commit d).mode, (StaysPut.commit d).context⟩

end StaysPut

/-- The command moves the console to another mode or another level. -/
def Command.moves : Command → Bool
  | configure => true
  | exit => true
  | leave => true
  | ascend => true
  | top => true
  | commitAndQuit => true
  | editInterface _ => true
  | editObject _ _ => true
  | _ => false

theorem staysPut_run {c : Command} (h : c.moves = false) (devices : Inventory) (d : Device) :
    StaysPut d (c.run devices d) := by
  by_cases hstates : c.isStatement = true
  · exact statement_induction hstates devices (fun change _ => .staged d change) (.logged d)
  cases c with
  | configure | exit | leave | ascend | top | commitAndQuit | editInterface | editObject => cases h
  | setAddress | clearAddress | describe | setUp | deleteInterface | setZone | clearZone
  | setEditedZone | clearEditedZone | addRoute | addEditedRoute | deleteRoute | setHostname =>
    exact absurd rfl hstates
  | accept | rollback => exact ⟨rfl, rfl⟩
  | commit => exact ⟨(StaysPut.commit d).mode, (StaysPut.commit d).context⟩
  | _ => exact .printed d _

/-! ## Levels of the hierarchy -/

/-- The command opens an object that is no section. -/
def Command.opensObject : Command → Bool
  | editInterface _ => true
  | editObject kind _ => kind != .configSection
  | _ => false

/-- The kind of the object being edited that the command is about, if it is about one. -/
def Command.edits? : Command → Option FrameKind
  | setAddress .edited _ _ => some .interface
  | clearAddress .edited _ => some .interface
  | describe .edited _ => some .interface
  | setUp .edited _ => some .interface
  | setEditedZone _ => some .zone
  | clearEditedZone _ => some .zone
  | addEditedRoute _ => some .staticRoute
  | _ => none

/-- A rule of the scope may stand for the command. -/
def Command.suits (c : Command) (scope : Scope) : Bool :=
  (!c.opensObject || scope == .top) && c.edits?.all fun kind => scope == .frame kind

theorem table_suits : ∀ r ∈ table, ∀ caps, (∃ line, r.meaning caps = .carried line) ∨
    ∃ c, r.meaning caps = .command c ∧ c.suits r.scope = true := by
  simp only [table, List.forall_mem_cons]
  repeat first
    | apply And.intro (fun _ => Or.inr ⟨_, rfl, rfl⟩)
    | apply And.intro (fun _ => Or.inl ⟨_, rfl⟩)
  exact List.forall_mem_nil _

/-- The table takes the command in the mode and inside the objects. -/
structure Command.Suited (c : Command) (mode : Mode) (context : List Frame) : Prop where
  operational : mode ≠ .edit → c.isOperational = true
  opens : c.opensObject = true → context = []
  edits : ∀ kind, c.edits? = some kind → ∃ name rest, context = ⟨kind, name⟩ :: rest

/-- What the table makes of a line is a command that suits the place. -/
theorem suited_of_done {mode : Mode} {context : List Frame} {tokens : List String} {c : Command}
    (h : dispatch mode context tokens table = .done (.command c)) : c.Suited mode context := by
  obtain ⟨r, hr, happ, caps, hc⟩ := exists_rule_of_done h
  rw [Rule.applies, Bool.and_eq_true] at happ
  obtain ⟨line, hline⟩ | ⟨c', hc', hsuits⟩ := table_suits r hr caps
  · rw [hline] at hc
    cases hc
  · rw [hc'] at hc
    cases hc
    rw [Command.suits, Bool.and_eq_true, Option.all_eq_true] at hsuits
    refine ⟨fun hmode => ?_, fun hopens => ?_, fun kind hkind => ?_⟩
    · obtain ⟨_, ⟨⟩, hoperational⟩ := operational_of_done hmode h
      exact hoperational
    · have hscope : r.scope = .top := by simpa [hopens] using hsuits.1
      rw [hscope, Scope.covers, List.isEmpty_iff] at happ
      exact happ.2
    · have hscope : r.scope = .frame kind := by simpa using hsuits.2 kind hkind
      rw [hscope, Scope.covers, Option.any_eq_true] at happ
      obtain ⟨⟨kind', name⟩, hhead, hkind'⟩ := happ.2
      cases beq_iff_eq.mp hkind'
      obtain ⟨rest, hrest⟩ := List.head?_eq_some_iff.mp hhead
      exact ⟨name, rest, hrest⟩

/-- No command that the table takes leads the console to where it cannot be. -/
theorem placed_run {c : Command} (h : Placed d.mode d.context) (hc : c.Suited d.mode d.context)
    (devices : Inventory) : Placed (c.run devices d).mode (c.run devices d).context := by
  by_cases hmoves : c.moves = true
  · have hedit : c.isOperational = false → d.mode = .edit := by
      intro hno
      refine h.mode_eq.resolve_left fun huser => ?_
      have hop := hc.operational (by rw [huser]; decide)
      rw [hno] at hop
      cases hop
    cases c with
    | configure => exact .edit h.sectionsInside
    | exit =>
      rw [Command.run]
      split
      next => exact .user
      next =>
        have hmode : d.pop.mode = .edit := hedit rfl
        rw [hmode]
        exact .edit h.sectionsInside.tail
    | leave | commitAndQuit => exact .user
    | ascend =>
      have hmode : d.pop.mode = .edit := hedit rfl
      rw [Command.run, hmode]
      exact .edit h.sectionsInside.tail
    | top =>
      have hmode : (d.within []).mode = .edit := hedit rfl
      rw [Command.run, hmode]
      exact .edit sectionsInside_nil
    | editInterface name =>
      have hmode : ((Command.editInterface name).run devices d).mode = .edit := hedit rfl
      rw [hmode]
      exact .edit (h.sectionsInside.push fun _ => hc.opens rfl)
    | editObject kind name =>
      have hmode : (d.push kind name).mode = .edit := hedit rfl
      rw [Command.run, hmode]
      exact .edit (h.sectionsInside.push fun hkind => hc.opens (bne_iff_ne.mpr hkind))
    | _ => cases hmoves
  · exact h.stay (staysPut_run (Bool.eq_false_iff.mpr hmoves) devices d)

/-! ## Actions -/

theorem placed_interpret (h : Placed d.mode d.context) (help : List String) (devices : Inventory)
    (line : String) : Placed (dialect.interpret help devices line d).mode
      (dialect.interpret help devices line d).context := by
  refine Dialect.kept_interpret (P := fun d => Placed d.mode d.context)
    (fun text h => h.stay (.logged _ text)) ?_ h help
  intro d m h hdone
  cases m with
  | command c => exact placed_run h (suited_of_done hdone) devices
  | carried text => exact h.stay (.of_forget (carriesSafely.forget_act hdone devices d))

theorem placed_apply (h : Placed d.mode d.context) (hfamily : d.family = .juniper)
    (devices : Inventory) (a : Action) :
    Placed (a.apply devices d).mode (a.apply devices d).context := by
  cases a with
  | line text =>
    obtain ⟨help, heq⟩ := interpret_juniper hfamily devices text
    rw [Action.apply, heq]
    exact placed_interpret h help devices text
  | edit e => exact h.stay (.applyEdit e d)

theorem placed_runAll (h : Placed d.mode d.context) (hfamily : d.family = .juniper)
    (actions : List (Inventory × Action)) :
    Placed (d.run actions).mode (d.run actions).context := by
  induction actions generalizing d with
  | nil => exact h
  | cons i rest ih =>
    exact ih (placed_apply h hfamily i.1 i.2) ((i.2.family_apply i.1 d).trans hfamily)

/-! ## Statements about the object being edited -/

/-- The command about the object of a name, where it is about the one being edited. -/
def Command.about (name : String) : Command → Command
  | setAddress .edited unit cidr => setAddress (.named name) unit cidr
  | clearAddress .edited unit => clearAddress (.named name) unit
  | describe .edited text => describe (.named name) text
  | setUp .edited up => setUp (.named name) up
  | setEditedZone interface => setZone interface name
  | clearEditedZone interface => clearZone interface
  | addEditedRoute nextHop => addRoute name nextHop
  | c => c

/-- Where there is an object of the kind, the command is about that object. -/
theorem run_about {c : Command} {kind : FrameKind} (hc : c.edits? = some kind) {name : String}
    (h : d.frameName? kind = some name) (devices : Inventory) :
    c.run devices d = (c.about name).run devices d := by
  cases c with
  | setAddress target | clearAddress target | describe target | setUp target =>
    cases target with
    | named => cases hc
    | edited =>
      cases hc
      simp only [Command.about, Command.run, stage, h]
  | setEditedZone | clearEditedZone =>
    cases hc
    simp only [Command.about, Command.run, withEditedZone, h]
  | addEditedRoute =>
    cases hc
    simp only [Command.about, Command.run, h]
  | _ => cases hc

/-- Where there is none, the command is turned down. -/
theorem run_of_none {c : Command} {kind : FrameKind} (hc : c.edits? = some kind)
    (h : d.frameName? kind = none) (devices : Inventory) :
    c.run devices d = d.log syntaxError := by
  cases c with
  | setAddress target | clearAddress target | describe target | setUp target =>
    cases target with
    | named => cases hc
    | edited =>
      cases hc
      simp only [Command.run, stage, h]
  | setEditedZone | clearEditedZone =>
    cases hc
    simp only [Command.run, withEditedZone, h]
  | addEditedRoute =>
    cases hc
    simp only [Command.run, h]
  | _ => cases hc

/-- Whatever a line has carried out, a command about the object being edited finds it, alone on the
    stack. -/
theorem finds_of_carriesOut (h : Placed d.mode d.context) {line : String} {c : Command}
    {e : Device} (hc : dialect.CarriesOut d line c e) {kind : FrameKind}
    (hkind : c.edits? = some kind) :
    ∃ name, e.context = [⟨kind, name⟩] ∧
      ∀ devices, c.run devices e = (c.about name).run devices e := by
  have hobject : kind ≠ .configSection := by
    rintro rfl
    cases c with
    | setAddress target | clearAddress target | describe target | setUp target =>
      cases target <;> cases hkind
    | _ => cases hkind
  cases hc with
  | entered hv =>
    obtain ⟨name, rest, hcontext⟩ :=
      (suited_of_done (Dialect.dispatch_of_verdict? hv)).edits kind hkind
    have hinside : SectionsInside (⟨kind, name⟩ :: rest) := hcontext ▸ h.sectionsInside
    have halone : d.context = [⟨kind, name⟩] := by
      rw [hcontext, hinside.eq_singleton hobject]
    exact ⟨name, halone, run_about hkind (frameName?_of_cons (f := ⟨kind, name⟩) halone)⟩
  | carried _ hdone =>
    -- in the operational mode, where carried lines run, no object is open
    obtain ⟨name, rest, hcontext⟩ := (suited_of_done hdone).edits kind hkind
    cases hcontext

/-! ## Exits -/

theorem dispatch_exit_edit (context : List Frame) :
    dispatch .edit context ["exit"] table = .done (.command .exit) := by
  rw [dispatch_fromWord]
  rfl

theorem dispatch_exit_user (context : List Frame) :
    dispatch .user context ["exit"] table = .done (.command .accept) := by
  rw [dispatch_fromWord]
  rfl

theorem words_exit : Text.words "exit" = ["exit"] := by decide

/-- In the operational mode, `exit` leads nowhere. -/
theorem leads_exit_user (hfamily : d.family = .juniper) (hmode : d.mode = .user) :
    Leads ["exit"] d d :=
  Dialect.leads_of_command (speaks hfamily) selfContained words_exit (by decide) (by decide)
    (hmode ▸ dispatch_exit_user d.context) rfl

/-- In the configuration mode, `exit` closes the innermost object, or leaves. -/
theorem leads_exit_edit (hfamily : d.family = .juniper) (hmode : d.mode = .edit) :
    Leads ["exit"] d (if d.context.isEmpty then leave d else d.pop) :=
  Dialect.leads_of_command (speaks hfamily) selfContained words_exit (by decide) (by decide)
    (hmode ▸ dispatch_exit_edit d.context) rfl

/-- How deep the console is makes no difference to leaving. -/
theorem leave_pop (d : Device) : leave d.pop = leave d := by
  have hpending : d.pop.hasPendingChanges = d.hasPendingChanges := rfl
  unfold leave
  rw [hpending]
  cases d.hasPendingChanges <;> rfl

/-- As many `exit` lines as objects are open, or fewer, close one object each. -/
theorem leads_exits_inside (hfamily : d.family = .juniper) (hmode : d.mode = .edit) {n : Nat}
    (hn : n ≤ d.context.length) :
    Leads (List.replicate n "exit") d (d.within (d.context.drop n)) := by
  induction n generalizing d with
  | zero => exact Leads.nil d
  | succ n ih =>
    have hexit := leads_exit_edit hfamily hmode
    cases hcontext : d.context with
    | nil =>
      rw [hcontext] at hn
      cases hn
    | cons f rest =>
      rw [hcontext, List.isEmpty_cons, if_neg Bool.false_ne_true] at hexit
      rw [hcontext] at hn
      have hpop : d.pop.context = rest := congrArg List.tail hcontext
      have hrest := ih (d := d.pop) hfamily hmode (hpop ▸ Nat.le_of_succ_le_succ hn)
      rw [hpop] at hrest
      exact hexit.append hrest

/-- More of them leave the configuration mode. -/
theorem leads_exits_outside (hfamily : d.family = .juniper) (hmode : d.mode = .edit) {n : Nat}
    (hn : d.context.length < n) : Leads (List.replicate n "exit") d (leave d) := by
  have hstay : ∀ k {e : Device}, e.family = .juniper → e.mode = .user →
      Leads (List.replicate k "exit") e e := by
    intro k e hfamily hmode
    induction k with
    | zero => exact Leads.nil e
    | succ k ih => exact (leads_exit_user hfamily hmode).append ih
  induction n generalizing d with
  | zero => cases hn
  | succ n ih =>
    have hexit := leads_exit_edit hfamily hmode
    cases hcontext : d.context with
    | nil =>
      rw [hcontext, List.isEmpty_nil, if_pos rfl] at hexit
      have hleave : (leave d).family = .juniper :=
        (family_eq_of_identity (accepting_leave.identity d)).trans hfamily
      exact hexit.append (hstay n hleave (mode_leave d))
    | cons f rest =>
      rw [hcontext, List.isEmpty_cons, if_neg Bool.false_ne_true] at hexit
      rw [hcontext] at hn
      have hpop : d.pop.context = rest := congrArg List.tail hcontext
      have hrest := ih (d := d.pop) hfamily hmode (hpop ▸ Nat.lt_of_succ_lt_succ hn)
      rw [leave_pop] at hrest
      exact hexit.append hrest

/-! ## Runs -/

/-- **Navigation on Junos.** Start in the operational mode with no object open. Then, after any
    lines and edits,
    * the console is in the operational or in the configuration mode, with no object open in the
      former, and in the latter with nothing but sections inside the outermost object;
    * whatever a line has carried out, a command about the object being edited finds it alone on the
      stack, and is the command that names the object;
    * from the configuration mode, `exit` lines get to the operational mode exactly when they are
      more than the open objects, and as long as they are not, each of them closes the innermost
      object and does nothing else;
    * in the operational mode, `exit` does no more than print. -/
theorem hierarchy_navigation (d : Device) (hfamily : d.family = .juniper) (hmode : d.mode = .user)
    (hcontext : d.context = []) (actions : List (Inventory × Action)) :
    let r := d.run actions
    (r.mode = .user ∨ r.mode = .edit) ∧
    (r.mode = .user → r.context = []) ∧
    (r.mode = .edit → ∀ f ∈ r.context.dropLast, f.kind = .configSection) ∧
    (∀ line c e, dialect.CarriesOut r line c e → ∀ kind, c.edits? = some kind →
      ∃ name, e.context = [⟨kind, name⟩] ∧
        ∀ devices, c.run devices e = (c.about name).run devices e) ∧
    (r.mode = .edit → ∀ exits : List Inventory,
      let s := r.enterLines (exits.map fun devices => (devices, "exit"))
      (s.mode = .user ↔ r.context.length < exits.length) ∧
      (exits.length ≤ r.context.length →
        s.forget = (r.within (r.context.drop exits.length)).forget)) ∧
    (r.mode = .user → ∀ devices, (r.interpret devices "exit").forget = r.forget) := by
  intro r
  have hstart : Placed d.mode d.context := by
    rw [hmode, hcontext]
    exact .user
  have hr : Placed r.mode r.context := placed_runAll hstart hfamily actions
  have hjuniper : r.family = .juniper := (d.family_run actions).trans hfamily
  refine ⟨hr.mode_eq, fun huser => hr.eq_nil (by rw [huser]; decide), fun _ => hr.sectionsInside,
    fun _ _ _ hc _ hkind => finds_of_carriesOut hr hc hkind, fun hedit exits => ?_,
    fun huser devices => ?_⟩
  · have htyped : (exits.map fun devices => (devices, "exit")).map Prod.snd =
        List.replicate exits.length "exit" := by
      rw [List.map_map]
      exact List.map_const'
    have hinside := fun hn => (leads_exits_inside hjuniper hedit hn).enterLines htyped
    refine ⟨⟨fun huser => ?_, fun hn => ?_⟩, hinside⟩
    · refine Nat.lt_of_not_le fun hn => ?_
      have hmodes := eq_of_forget Device.mode (fun _ => rfl) (hinside hn)
      rw [huser] at hmodes
      cases hmodes.trans hedit
    · have houtside := (leads_exits_outside hjuniper hedit hn).enterLines htyped
      exact (eq_of_forget Device.mode (fun _ => rfl) houtside).trans (mode_leave r)
  · have htyped : [(devices, "exit")].map Prod.snd = ["exit"] := rfl
    exact (leads_exit_user hjuniper huser).enterLines htyped

/-- Two sections inside an interface, with a carried line, an edit and a rollback in between: the
    console is three levels deep, and the fourth `exit` leaves. At the first level the statement
    about the interface finds it. -/
theorem hierarchy_navigation_nested :
    let d : Device := { id := "r1", name := "r1", kind := .router, vendor := .juniper }
    let none : Inventory := SortedMap.empty
    let opened : List (Inventory × Action) :=
      [(none, .line "configure"), (none, .line "edit interfaces ge-0/0/0"),
        (none, .edit (.interface "ge-0/0/0" .toggle)), (none, .line "rollback")]
    let nested : List (Inventory × Action) :=
      [(none, .line "edit unit 0"), (none, .line "run show version"),
        (none, .line "edit interfaces ge-0/0/1"), (none, .edit .commit)]
    let statement : Command := .describe .edited (some "uplink")
    let r := d.run (opened ++ nested)
    (∀ devices, statement.run devices (Dialect.echo "set description uplink" (d.run opened)) =
      (Command.describe (.named "ge-0/0/0") (some "uplink")).run devices
        (Dialect.echo "set description uplink" (d.run opened))) ∧
    r.context.length = 3 ∧
    (r.enterLines [(none, "exit"), (none, "exit"), (none, "exit")]).forget =
      (r.within []).forget ∧
    (r.enterLines
      [(none, "exit"), (none, "exit"), (none, "exit"), (none, "exit")]).mode = .user := by
  intro d none opened nested statement r
  obtain ⟨_, _, _, hfinds, _⟩ := hierarchy_navigation d rfl rfl rfl opened
  obtain ⟨_, _, _, _, hexits, _⟩ := hierarchy_navigation d rfl rfl rfl (opened ++ nested)
  obtain ⟨hmode, hcontext⟩ : r.mode = .edit ∧ r.context =
      [⟨.configSection, "interfaces ge-0/0/1"⟩, ⟨.configSection, "unit 0"⟩,
        ⟨.interface, "ge-0/0/0"⟩] := by
    decide
  have hlength : r.context.length = 3 := by rw [hcontext]; rfl
  refine ⟨fun devices => ?_, hlength, ?_, ?_⟩
  · obtain ⟨name, hname, hrun⟩ := hfinds "set description uplink" statement _
      (.entered (by decide)) .interface rfl
    have hthere : (Dialect.echo "set description uplink" (d.run opened)).context =
        [⟨.interface, "ge-0/0/0"⟩] := by
      decide
    cases hname.symm.trans hthere
    exact hrun devices
  · have hclosed := (hexits hmode [none, none, none]).2 (Nat.le_of_eq hlength.symm)
    have hdrop : r.context.drop 3 = [] := by rw [hcontext]; rfl
    exact hclosed.trans (congrArg (fun context => (r.within context).forget) hdrop)
  · refine (hexits hmode [none, none, none, none]).1.mpr ?_
    rw [hlength]
    decide

end Junos

end TrainingLab
