import TrainingLab.Proofs.Dialect.Console

/-
  Commit isolation. Console lines and graphical edits reach a Junos device in any order, and what
  is live changes only when one of them commits, to what was staged right before.

  Proved:
  * `operational_of_done`: outside the configuration mode the table has operational commands only,
    so that carried lines, which run there, touch the console alone (`config_runCarried`).
  * `keepsLive_apply`, `makesLive_apply`: one action.
  * `settled_interpret`: nothing is pending outside the configuration mode, if lines are all that
    comes in.
  * `commit_isolation`: both along every run.
-/

namespace TrainingLab.Junos

open Grammar Device

/-! ## The table -/

theorem table_operational : ∀ r ∈ table, r.modes = [.edit] ∨
    ∀ caps, ∃ c, r.meaning caps = .command c ∧ c.isOperational = true := by
  simp only [table, List.forall_mem_cons]
  repeat first
    | apply And.intro (Or.inl rfl)
    | apply And.intro (Or.inr fun _ => ⟨_, rfl, rfl⟩)
  exact List.forall_mem_nil _

/-- Outside the configuration mode the table has operational commands only. -/
theorem operational_of_done {mode : Mode} (hmode : mode ≠ .edit) {context : List Frame}
    {tokens : List String} {m : Request Command}
    (h : dispatch mode context tokens table = .done m) :
    ∃ c, m = .command c ∧ c.isOperational = true := by
  obtain ⟨r, hr, happ, caps, rfl⟩ := exists_rule_of_done h
  rcases table_operational r hr with hedit | hop
  · have hin := (Bool.and_eq_true_iff.mp happ).1
    rw [hedit] at hin
    simp [hmode] at hin
  · exact hop caps

/-- A line that commits has come to the configuration mode. -/
theorem mode_of_commits {mode : Mode} {context : List Frame} {tokens : List String} {c : Command}
    (hc : c.commits = true) (h : dispatch mode context tokens table = .done (.command c)) :
    mode = .edit := by
  refine Decidable.byContradiction fun hmode => ?_
  obtain ⟨_, ⟨⟩, hop⟩ := operational_of_done hmode h
  rw [Command.isOperational_of_commits hc] at hop
  cases hop

/-! ## Verdicts -/

/-- A carried line touches the console alone. -/
theorem config_runCarried (devices : Inventory) (line : String) (d : Device) :
    (dialect.runCarried devices line d).config = d.config := by
  unfold Dialect.runCarried
  simp only [config_within, config_enter]
  cases hv : dispatch dialect.carriedMode [] (Text.words line) dialect.table with
  | done m =>
    obtain ⟨c, rfl, hop⟩ := operational_of_done (by decide) hv
    exact config_run_of_operational hop devices _
  | incomplete => rfl
  | unknown => rfl

theorem mode_runCarried (devices : Inventory) (line : String) (d : Device) :
    (dialect.runCarried devices line d).mode = d.mode := rfl

theorem keepsLive_act {v : Verdict (Request Command)}
    (hv : ∀ c, v = .done (.command c) → c.commits = false) (devices : Inventory) (d : Device) :
    KeepsLive d (dialect.act devices v d) := by
  cases v with
  | done m =>
    cases m with
    | command c => exact (effect_run (hv c rfl) devices d).keepsLive
    | carried line => exact .of_config (config_runCarried devices line d)
  | incomplete => exact (KeepsLive.refl d).log _
  | unknown => exact (KeepsLive.refl d).log _

/-- Nothing is pending outside the configuration mode. -/
def Settled (d : Device) : Prop := d.mode ≠ .edit → d.hasPendingChanges = false

theorem settled_of_config {d d' : Device} (h : Settled d) (hconfig : d'.config = d.config)
    (hmode : d'.mode = d.mode) : Settled d' := by
  intro hm
  rw [hmode] at hm
  rw [hasPendingChanges_eq hconfig]
  exact h hm

theorem settled_act {d : Device} (h : Settled d) (devices : Inventory) (tokens : List String) :
    Settled (dialect.act devices (dispatch d.mode d.context tokens table) d) := by
  cases hv : dispatch d.mode d.context tokens table with
  | incomplete => exact settled_of_config h (config_log d _) (mode_log d _)
  | unknown => exact settled_of_config h (config_log d _) (mode_log d _)
  | done m =>
    -- in the configuration mode only a way out has anything to show, and every way out leaves
    -- nothing pending; elsewhere the configuration stays as it is
    by_cases hm : d.mode = .edit
    · cases m with
      | carried line =>
        exact settled_of_config h (config_runCarried devices line d)
          (mode_runCarried devices line d)
      | command c =>
        intro hmode
        rcases mode_run_of_edit c devices hm with hedit | ⟨_, hnone⟩
        · exact absurd hedit hmode
        · exact hnone
    · obtain ⟨c, rfl, hop⟩ := operational_of_done hm hv
      intro _
      show (c.run devices d).hasPendingChanges = false
      rw [hasPendingChanges_eq (config_run_of_operational hop devices d)]
      exact h hm

/-! ## Lines -/

/-- The line gets to the table in the configuration mode, and there means a commit. -/
def LineCommits (line : String) (d : Device) : Prop :=
  d.mode = .edit ∧
    (dialect.verdict? line d = some (.done (.command .commit)) ∨
      dialect.verdict? line d = some (.done (.command .commitAndQuit)))

theorem keepsLive_echo (line : String) (d : Device) : KeepsLive d (Dialect.echo line d) :=
  .of_config (config_log d _)

theorem lineCommits_of_verdict? {line : String} {d : Device} {c : Command}
    (hc : c.commits = true) (h : dialect.verdict? line d = some (.done (.command c))) :
    LineCommits line d := by
  have hmode : d.mode = .edit := mode_of_commits hc (Dialect.dispatch_of_verdict? h)
  refine ⟨hmode, ?_⟩
  cases c
  case commit => exact Or.inl h
  case commitAndQuit => exact Or.inr h
  all_goals cases hc

theorem keepsLive_interpret {line : String} {d : Device} (h : ¬ LineCommits line d)
    (help : List String) (devices : Inventory) :
    KeepsLive d (dialect.interpret help devices line d) := by
  cases hv : dialect.verdict? line d with
  | none =>
    obtain ⟨texts, htexts⟩ := Dialect.interpret_of_none hv help devices
    rw [htexts]
    exact .of_config (config_logAll d texts)
  | some v =>
    rw [Dialect.interpret_of_some hv]
    refine (keepsLive_echo line d).trans (keepsLive_act (fun c hc => ?_) devices _)
    subst hc
    cases hcommits : c.commits with
    | false => rfl
    | true => exact absurd (lineCommits_of_verdict? hcommits hv) h

theorem makesLive_interpret {line : String} {d : Device} (h : LineCommits line d)
    (help : List String) (devices : Inventory) :
    MakesLive d (dialect.interpret help devices line d) := by
  have hecho : (Dialect.echo line d).config = d.config := config_log d _
  rcases h.2 with hv | hv
  · rw [Dialect.interpret_of_some hv]
    exact .of_config_left hecho (makesLive_run (c := .commit) rfl devices _)
  · rw [Dialect.interpret_of_some hv]
    exact .of_config_left hecho (makesLive_run (c := .commitAndQuit) rfl devices _)

theorem settled_interpret {d : Device} (h : Settled d) (help : List String) (devices : Inventory)
    (line : String) : Settled (dialect.interpret help devices line d) := by
  cases hv : dialect.verdict? line d with
  | none =>
    obtain ⟨texts, htexts⟩ := Dialect.interpret_of_none hv help devices
    rw [htexts]
    exact settled_of_config h (config_logAll d texts) (mode_logAll d texts)
  | some v =>
    rw [Dialect.interpret_of_some hv, ← Dialect.dispatch_of_verdict? hv]
    exact settled_act (settled_of_config h (config_log d _) (mode_log d _)) devices _

end TrainingLab.Junos

namespace TrainingLab

open Junos

/-- The action is a line that means a commit in the configuration mode, or the edit that
    commits. -/
def Action.Commits (d : Device) : Action → Prop
  | .line text => LineCommits text d
  | .edit e => e = .commit

namespace Device

/-! ## One action -/

theorem interpret_juniper {d : Device} (hf : d.family = .juniper) (devices : Inventory)
    (line : String) : ∃ help, d.interpret devices line =
      Junos.dialect.interpret help devices line d := by
  refine ⟨(Reference.ofFamily d.family).helpLines d.vendor, ?_⟩
  unfold interpret
  rw [hf]

/-- An action that does not commit leaves alone what is live. -/
theorem keepsLive_apply {d : Device} (hf : d.family = .juniper) {a : Action}
    (h : ¬ a.Commits d) (devices : Inventory) : KeepsLive d (a.apply devices d) := by
  cases a with
  | line text =>
    obtain ⟨help, heq⟩ := interpret_juniper hf devices text
    rw [Action.apply, heq]
    exact keepsLive_interpret h help devices
  | edit e =>
    cases e with
    | interface name e =>
      have hstages : d.stagesEdits = true := by rw [stagesEdits, hf]; rfl
      exact keepsLive_applyInterfaceEdit hstages name e
    | commit => exact absurd rfl h

/-- An action that commits makes live what was staged before. -/
theorem makesLive_apply {d : Device} (hf : d.family = .juniper) {a : Action}
    (h : a.Commits d) (devices : Inventory) : MakesLive d (a.apply devices d) := by
  cases a with
  | line text =>
    obtain ⟨help, heq⟩ := interpret_juniper hf devices text
    rw [Action.apply, heq]
    exact makesLive_interpret h help devices
  | edit e =>
    cases h
    exact makesLive_applyEdit_commit d

theorem candidateDisjoint_apply {d : Device} (hf : d.family = .juniper)
    (hd : d.CandidateDisjoint) (devices : Inventory) (a : Action) :
    (a.apply devices d).CandidateDisjoint := by
  by_cases h : a.Commits d
  · exact (makesLive_apply hf h devices).disjoint
  · exact (keepsLive_apply hf h devices).disjoint hd

/-! ## Runs -/

theorem candidateDisjoint_run {d : Device} (hf : d.family = .juniper) (hd : d.CandidateDisjoint)
    (actions : List (Inventory × Action)) : (d.run actions).CandidateDisjoint := by
  induction actions generalizing d with
  | nil => exact hd
  | cons i rest ih =>
    exact ih ((i.2.family_apply i.1 d).trans hf) (candidateDisjoint_apply hf hd i.1 i.2)

/-- Along a run of lines nothing is pending outside the configuration mode. -/
theorem settled_run {d : Device} (hf : d.family = .juniper) (h : Settled d)
    (lines : List (Inventory × String)) :
    Settled (d.run (lines.map fun l => (l.1, .line l.2))) := by
  induction lines generalizing d with
  | nil => exact h
  | cons l rest ih =>
    refine ih ((Action.family_apply l.1 (.line l.2) d).trans hf) ?_
    obtain ⟨help, heq⟩ := interpret_juniper hf l.1 l.2
    show Settled (d.interpret l.1 l.2)
    rw [heq]
    exact settled_interpret h help l.1 l.2

/-- **Commit isolation.** On a Junos device whose candidate, if it has one, is disjoint, lines and
    edits come in any order. Unless an action commits, the name, the interfaces, the routes, the
    policies and the VLANs that are live stay as they are. One that commits makes the staged view
    live, whether it is read as a whole or interface by interface. And if only lines come in,
    from operational mode with nothing pending, then nothing is pending whenever the console is
    back in operational mode, and the staged view is what is live. -/
theorem commit_isolation :
    (∀ d : Device, d.family = .juniper → d.CandidateDisjoint →
      ∀ (before : List (Inventory × Action)) (devices : Inventory) (a : Action),
      (¬ a.Commits (d.run before) →
        (a.apply devices (d.run before)).liveView = (d.run before).liveView ∧
        (a.apply devices (d.run before)).policies = (d.run before).policies ∧
        (a.apply devices (d.run before)).vlans = (d.run before).vlans) ∧
      (a.Commits (d.run before) →
        (a.apply devices (d.run before)).liveView = (d.run before).stagedView ∧
        ∀ name, (a.apply devices (d.run before)).interfaces.find? name =
          (d.run before).stagedInterface? name)) ∧
    (∀ d : Device, d.family = .juniper → d.mode = .user → d.hasPendingChanges = false →
      ∀ lines : List (Inventory × String),
      (d.run (lines.map fun l => (l.1, .line l.2))).mode = .user →
        (d.run (lines.map fun l => (l.1, .line l.2))).hasPendingChanges = false ∧
        (d.run (lines.map fun l => (l.1, .line l.2))).stagedView =
          (d.run (lines.map fun l => (l.1, .line l.2))).liveView) := by
  refine ⟨fun d hf hd before devices a => ⟨fun h => ?_, fun h => ?_⟩,
    fun d hf _ hnone lines hmode => ?_⟩
  · have hkeeps := keepsLive_apply ((family_run d before).trans hf) h devices
    exact ⟨hkeeps.live, hkeeps.policies, hkeeps.vlans⟩
  · have hmakes := makesLive_apply ((family_run d before).trans hf) h devices
    refine ⟨hmakes.live, fun name => ?_⟩
    rw [stagedInterface?_eq (candidateDisjoint_run hf hd before) name]
    exact congrArg (SortedMap.find? · name) (congrArg WorkingCopy.interfaces hmakes.live)
  · have hsettled := settled_run hf (fun _ => hnone) lines
    have hpending := hsettled (by rw [hmode]; decide)
    exact ⟨hpending, stagedView_of_not_pending hpending⟩

/-- A hostname that is staged and an interface that is disabled in the graphical view are live
    after `commit`; opening the configuration mode and leaving it again leaves nothing pending. -/
theorem commit_isolation_mixed :
    let d : Device :=
      { id := "r1", name := "r1", kind := .router, vendor := .juniper, mode := .edit
        interfaces := SortedMap.ofList [("ge-0/0/0", {})]
        candidate := some { hostname := some "r2" } }
    let e : Device := { id := "r1", name := "r1", kind := .router, vendor := .juniper }
    let none : Inventory := SortedMap.empty
    let down : Action := .edit (.interface "ge-0/0/0" (.up false))
    let commit : Action := .line "commit"
    ((down.apply none d).liveView = d.liveView ∧
      (commit.apply none (down.apply none d)).liveView =
        ⟨SortedMap.ofList [("ge-0/0/0", Interface.setUp {} false)], [], "r2"⟩) ∧
    (e.run [(none, .line "configure"), (none, .line "exit")]).hasPendingChanges = false := by
  intro d e none down commit
  obtain ⟨hactions, hlines⟩ := commit_isolation
  have hd : d.CandidateDisjoint := by
    rintro _ ⟨⟩ name hname
    cases hname
  refine ⟨⟨?_, ?_⟩, ?_⟩
  · refine ((hactions d rfl hd [] none down).1 ?_).1
    rintro ⟨⟩
  · have hcommits : commit.Commits (d.run [(none, down)]) := ⟨rfl, Or.inl (by decide +kernel)⟩
    refine ((hactions d rfl hd [(none, down)] none commit).2 hcommits).1.trans ?_
    decide +kernel
  · exact (hlines e rfl rfl rfl [(none, "configure"), (none, "exit")] (by decide +kernel)).1

end Device

end TrainingLab
