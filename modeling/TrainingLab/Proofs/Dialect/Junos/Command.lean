import TrainingLab.Proofs.Device.Live
import TrainingLab.Proofs.Dialect.Junos.Statement

/-
  What the commands of Junos do. A command that does not commit has one of four effects (`Effect`):
  it stays on the console, it stages one change, it drops what is staged, or it leaves the
  configuration mode. None of them touches what is live. The commands of the operational mode stay
  on the console.

  All but the one that lists the history are orderly (`orderly_run`), so they do the same whatever
  the history (`sameEffect_run`), and none that turns something down changes anything
  (`atomic_run`). Those that inspect do nothing but print (`forget_run_of_inspects`), the others do
  not look at the other devices (`run_eq_of_acts`).
-/

namespace TrainingLab.Junos

open Device

/-- The command makes the staged changes live. -/
def Command.commits : Command → Bool
  | commit => true
  | commitAndQuit => true
  | _ => false

/-- The command is one of the operational mode: it prints, does nothing, or opens the
    configuration mode. -/
def Command.isOperational : Command → Bool
  | print _ => true
  | accept => true
  | configure => true
  | showConfiguration _ => true
  | showVersion => true
  | showTerse => true
  | showInterfaces _ => true
  | showRoutes => true
  | showArp => true
  | showLldp => true
  | showPolicies => true
  | showZones => true
  | showHistory => true
  | ping _ => true
  | traceroute _ => true
  | _ => false

theorem Command.isOperational_of_commits {c : Command} (h : c.commits = true) :
    c.isOperational = false := by
  cases c <;> first | rfl | cases h

/-- What a command that does not commit makes of a device. -/
inductive Effect (d : Device) : Device → Prop
  /-- It prints or moves about, and at most goes over to the configuration mode. -/
  | console {d'} : d'.config = d.config → d'.mode = d.mode ∨ d'.mode = .edit → Effect d d'
  /-- It stages a change. -/
  | staged {d'} (c : Change) : d'.config = (d.stage c).config → d'.mode = d.mode → Effect d d'
  /-- It drops what is staged. -/
  | dropped {d'} : d'.config = d.discard.config → d'.mode = d.mode → Effect d d'
  /-- It leaves the configuration mode. -/
  | left : Effect d (leave d)

namespace Effect

theorem printed (d : Device) (texts : List String) : Effect d (d.logAll texts) :=
  console (config_logAll d texts) (Or.inl (mode_logAll d texts))

theorem complained (d : Device) (text : String) : Effect d (d.log text) :=
  console (config_log d text) (Or.inl (mode_log d text))

theorem changed (d : Device) (c : Change) : Effect d (d.stage c) :=
  staged c rfl (by cases c <;> rfl)

end Effect

/-! ## Commands -/

/-- A command of the operational mode touches the console alone. -/
theorem config_run_of_operational {c : Command} (h : c.isOperational = true)
    (devices : Inventory) (d : Device) : (c.run devices d).config = d.config := by
  cases c with
  | accept | configure => rfl
  | print | showConfiguration | showVersion | showTerse | showInterfaces | showRoutes | showArp
  | showLldp | showPolicies | showZones | showHistory | ping | traceroute =>
    exact config_logAll d _
  | _ => cases h

/-- A command of the operational mode stays in its mode or opens the configuration mode. -/
theorem mode_run_of_operational {c : Command} (h : c.isOperational = true)
    (devices : Inventory) (d : Device) :
    (c.run devices d).mode = d.mode ∨ (c.run devices d).mode = .edit := by
  cases c with
  | accept => exact Or.inl rfl
  | configure => exact Or.inr rfl
  | print | showConfiguration | showVersion | showTerse | showInterfaces | showRoutes | showArp
  | showLldp | showPolicies | showZones | showHistory | ping | traceroute =>
    exact Or.inl (mode_logAll d _)
  | _ => cases h

/-- Every command that does not commit has one of the effects. -/
theorem effect_run {c : Command} (h : c.commits = false) (devices : Inventory) (d : Device) :
    Effect d (c.run devices d) := by
  -- the operational commands are settled above, and statements stage one change or complain
  by_cases hop : c.isOperational = true
  · exact .console (config_run_of_operational hop devices d)
      (mode_run_of_operational hop devices d)
  by_cases hstates : c.isStatement = true
  · exact statement_induction hstates devices (fun change _ => .changed d change)
      (.complained d)
  cases c
  case exit =>
    rw [Command.run]
    split
    next => exact .left
    next => exact .console (config_pop d) (Or.inl rfl)
  case leave => exact .left
  case ascend => exact .console (config_pop d) (Or.inl rfl)
  case top => exact .console (config_within d []) (Or.inl rfl)
  case rollback => exact .dropped rfl rfl
  case compare => exact .printed d _
  case showCandidate => exact .printed d _
  case editInterface name => exact .staged (.interface (resolve d name none) id) rfl rfl
  case editObject kind name => exact .console (config_push d kind name) (Or.inl rfl)
  all_goals first | exact absurd rfl hop | exact absurd rfl hstates | cases h

/-! ## What is live -/

theorem config_leave (d : Device) :
    (leave d).config = if d.hasPendingChanges then d.discard.config else d.config := by
  by_cases h : d.hasPendingChanges = true
  · simp only [leave, if_pos h, config_enter, config_log, config_within, config_discard]
  · simp only [leave, if_neg h, config_enter, config_log, config_within]

theorem mode_leave (d : Device) : (leave d).mode = .user := rfl

/-- Nothing is pending after leaving. -/
theorem hasPendingChanges_leave (d : Device) : (leave d).hasPendingChanges = false := by
  have hconfig := config_leave d
  cases hp : d.hasPendingChanges with
  | true =>
    rw [hp, if_pos rfl] at hconfig
    rw [hasPendingChanges_eq hconfig, hasPendingChanges_discard]
  | false =>
    rw [hp, if_neg (by simp)] at hconfig
    rw [hasPendingChanges_eq hconfig, hp]

theorem keepsLive_leave (d : Device) : KeepsLive d (leave d) := by
  have hconfig := config_leave d
  split at hconfig
  next => exact (KeepsLive.of_discard d).trans (.of_config hconfig)
  next => exact .of_config hconfig

theorem Effect.keepsLive {d d' : Device} (h : Effect d d') : KeepsLive d d' := by
  cases h with
  | console hc _ => exact .of_config hc
  | staged c hc _ => exact (KeepsLive.of_stage d c).trans (.of_config hc)
  | dropped hc _ => exact (KeepsLive.of_discard d).trans (.of_config hc)
  | left => exact keepsLive_leave d

/-- A command of the configuration mode stays there, or leaves with nothing pending. -/
theorem Effect.mode_of_edit {d d' : Device} (h : Effect d d') (hm : d.mode = .edit) :
    d'.mode = .edit ∨ (d'.mode = .user ∧ d'.hasPendingChanges = false) := by
  cases h with
  | console _ hmode => exact Or.inl (hmode.elim (fun h => h.trans hm) fun h => h)
  | staged c _ hmode => exact Or.inl (hmode.trans hm)
  | dropped _ hmode => exact Or.inl (hmode.trans hm)
  | left => exact Or.inr ⟨mode_leave d, hasPendingChanges_leave d⟩

theorem makesLive_commit (d : Device) : MakesLive d (commit d) :=
  (MakesLive.of_commit d).log "commit complete"

/-- A command that commits makes live what is staged. -/
theorem makesLive_run {c : Command} (h : c.commits = true) (devices : Inventory) (d : Device) :
    MakesLive d (c.run devices d) := by
  cases c
  case commit => exact makesLive_commit d
  case commitAndQuit => exact (makesLive_commit d).trans (keepsLive_leave _)
  all_goals cases h

theorem mode_commit (d : Device) : (commit d).mode = d.mode := by
  rw [commit, Device.commit_eq]
  rfl

/-- Every command of the configuration mode stays there, or leaves with nothing pending. -/
theorem mode_run_of_edit (c : Command) (devices : Inventory) {d : Device} (hm : d.mode = .edit) :
    (c.run devices d).mode = .edit ∨
      ((c.run devices d).mode = .user ∧ (c.run devices d).hasPendingChanges = false) := by
  cases hc : c.commits with
  | false => exact (effect_run hc devices d).mode_of_edit hm
  | true =>
    cases c
    case commit => exact Or.inl ((mode_commit d).trans hm)
    case commitAndQuit => exact Or.inr ⟨mode_leave _, hasPendingChanges_leave _⟩
    all_goals cases hc

/-! ## Rejections -/

/-- The texts that turn down a line or a statement. -/
def Rejection (text : String) : Prop :=
  text = unknownCommand ∨ text = syntaxError ∨ text = incompleteCommand ∨ text = notFound

instance (text : String) : Decidable (Rejection text) := by
  unfold Rejection
  infer_instance

/-! ## Operations -/

theorem orderly_statement {c : Command} (h : c.isStatement = true) (devices : Inventory) :
    Orderly Rejection (c.run devices) := by
  intro earlier d
  rw [run_statement h, run_statement h, change?_prepend, refusal_prepend]
  cases c.change? d with
  | some change =>
    rw [Option.elim_some, Option.elim_some, stage_prepend]
    rw [stage_eq_candidate]
    exact .silent rfl rfl rfl
  | none => exact .logged earlier d _

theorem accepting_leave : Accepting Rejection leave := by
  have hwarning : Accepting Rejection fun d =>
      d.log "The configuration has been changed but not committed" :=
    .noted (Text.feed_not_mem_ofList (by decide)) (by decide)
  have hend : Accepting Rejection fun d => d.log "Exiting configuration mode" :=
    .noted (Text.feed_not_mem_ofList (by decide)) (by decide)
  have hdiscard : Accepting Rejection discard := .silent fun _ _ => ⟨rfl, rfl, rfl⟩
  have hkeep : Accepting Rejection fun d => d := .silent fun _ _ => ⟨rfl, rfl, rfl⟩
  have htop : Accepting Rejection fun d => d.within [] := .silent fun _ _ => ⟨rfl, rfl, rfl⟩
  have huser : Accepting Rejection fun d => d.enter .user := .silent fun _ _ => ⟨rfl, rfl, rfl⟩
  have hdrop : Accepting Rejection fun d =>
      if d.hasPendingChanges then
        (d.log "The configuration has been changed but not committed").discard else d :=
    .choice (fun _ _ => Iff.rfl) (hdiscard.comp hwarning) hkeep
  exact huser.comp (hend.comp (htop.comp hdrop))

theorem accepting_commit : Accepting Rejection commit := by
  have hdone : Accepting Rejection fun d => d.log "commit complete" :=
    .noted (Text.feed_not_mem_ofList (by decide)) (by decide)
  exact hdone.comp Device.accepting_commit

/-- All commands but the one that lists the history are orderly. -/
theorem orderly_run {c : Command} (h : c ≠ .showHistory) (devices : Inventory) :
    Orderly Rejection (c.run devices) := by
  cases c with
  | accept | ascend | top | editInterface | editObject =>
    exact .silent fun _ _ => ⟨rfl, rfl, rfl⟩
  | configure =>
    have hnote : Accepting Rejection fun d => d.log "Entering configuration mode" :=
      .noted (Text.feed_not_mem_ofList (by decide)) (by decide)
    have henter : Accepting Rejection fun d => d.enter .edit :=
      .silent fun _ _ => ⟨rfl, rfl, rfl⟩
    exact (henter.comp hnote).orderly
  | rollback =>
    have hnote : Accepting Rejection fun d => d.log "load complete" :=
      .noted (Text.feed_not_mem_ofList (by decide)) (by decide)
    have hdiscard : Accepting Rejection discard := .silent fun _ _ => ⟨rfl, rfl, rfl⟩
    exact (hnote.comp hdiscard).orderly
  | exit =>
    refine .choice (p := fun d => d.context.isEmpty) (fun _ _ => Iff.rfl)
      accepting_leave.orderly ?_
    exact .silent fun _ _ => ⟨rfl, rfl, rfl⟩
  | leave => exact accepting_leave.orderly
  | commit => exact accepting_commit.orderly
  | commitAndQuit => exact (accepting_leave.comp accepting_commit).orderly
  | setAddress | clearAddress | describe | setUp | deleteInterface | setZone | clearZone
  | setEditedZone | clearEditedZone | addRoute | addEditedRoute | deleteRoute | setHostname =>
    exact orderly_statement rfl devices
  | showHistory => exact absurd rfl h
  | _ => exact .printed fun _ _ => rfl

/-- No command both turns something down and changes something. -/
theorem atomic_run (c : Command) (devices : Inventory) (d : Device) :
    Atomic Rejection d (c.run devices d) := by
  by_cases h : c = .showHistory
  · rw [h]
    exact .printed d d.enteredCommands
  · exact (orderly_run h devices).atomic d

/-! ## Inspection -/

/-- The command prints, and does nothing else. -/
def Command.inspects : Command → Bool
  | print _ => true
  | showConfiguration _ => true
  | showVersion => true
  | showTerse => true
  | showInterfaces _ => true
  | showRoutes => true
  | showArp => true
  | showLldp => true
  | showPolicies => true
  | showZones => true
  | showHistory => true
  | ping _ => true
  | traceroute _ => true
  | compare => true
  | showCandidate _ => true
  | _ => false

theorem forget_run_of_inspects {c : Command} (h : c.inspects = true) (devices : Inventory)
    (d : Device) : (c.run devices d).forget = d.forget := by
  cases c with
  | print | showConfiguration | showVersion | showTerse | showInterfaces | showRoutes | showArp
  | showLldp | showPolicies | showZones | showHistory | ping | traceroute | compare
  | showCandidate => exact forget_logAll d _
  | _ => cases h

/-- A command that does more than print does not look at the other devices. -/
theorem run_eq_of_acts {c : Command} (h : c.inspects = false) (devices others : Inventory) :
    c.run devices = c.run others := by
  cases c <;> first | rfl | cases h

/-- Apart from what it prints, a command does the same whatever the history and the other
    devices. -/
theorem sameEffect_run (c : Command) (devices others : Inventory) :
    SameEffect (c.run devices) (c.run others) := by
  cases h : c.inspects with
  | true => exact .of_forget (forget_run_of_inspects h devices) (forget_run_of_inspects h others)
  | false =>
    have hlists : c ≠ .showHistory := by
      rintro rfl
      cases h
    rw [run_eq_of_acts h devices others]
    exact (orderly_run hlists others).sameEffect

end TrainingLab.Junos
