import TrainingLab.Proofs.Dialect.Console

/-
  Typing lines on the console of a family. What a line leads to, apart from what is printed, is
  read off the table of the dialect that the device speaks. What printing and the meanings of the
  table keep is kept by every line.

  Proved:
  * `Ios.speaks`, `Junos.speaks`, `FortiOs.speaks`, `PanOs.speaks`: which dialect a family speaks.
  * `interpret_of_command`: a line of which the table makes a command carries the command out.
  * `leads_of_command`, `leads_of_unknown`, `leads_of_blank`: what a line leads to.
  * `kept_interpret`, `kept_of_word`, `kept_lines`: what is kept by a line, by lines that begin in
    some way, and along any lines.
  * `related_interpret`: what commands do to the configuration, lines do, carried ones included.
-/

namespace TrainingLab

open Grammar Device

/-- The device after lines on its console, each taken among the devices of its lab at the time. -/
def Device.enterLines (d : Device) (lines : List (Inventory × String)) : Device :=
  d.run (lines.map fun l => (l.1, .line l.2))

/-- The other devices of the lab do not matter for what lines lead to. -/
theorem Leads.enterLines {lines : List String} {d e : Device} (h : Leads lines d e)
    {typed : List (Inventory × String)} (htyped : typed.map Prod.snd = lines) :
    (d.enterLines typed).forget = e.forget := by
  refine h.forget_run ?_
  rw [← htyped, List.map_map, List.map_map]
  rfl

namespace Dialect

variable {κ : Type} {l : Dialect κ} {d : Device}

/-- The console of the device takes lines by the dialect. -/
def Speaks (l : Dialect κ) (d : Device) : Prop :=
  ∃ help, ∀ devices line, d.interpret devices line = l.interpret help devices line d

variable {line token : String} {rest : List String} {f : Family}

/-- A line of which the table makes a command is echoed, and the command is carried out. -/
theorem interpret_of_command (hspeaks : l.Speaks d) (hwords : Text.words line = token :: rest)
    (hmark : token ≠ "?") (hhelp : token ≠ "help") {c : κ}
    (h : dispatch d.mode d.context (token :: rest) l.table = .done (.command c))
    (devices : Inventory) : d.interpret devices line = l.run devices c (echo line d) := by
  obtain ⟨help, hinterpret⟩ := hspeaks
  have hv : l.verdict? line d = some (.done (.command c)) :=
    (l.verdict?_of_words d hwords hmark hhelp).trans (congrArg some h)
  rw [hinterpret]
  exact interpret_of_some hv help devices

/-- A line of which the table makes a command leads to what the command does. -/
theorem leads_of_command (hspeaks : l.Speaks d) (hself : l.SelfContained)
    (hwords : Text.words line = token :: rest) (hmark : token ≠ "?") (hhelp : token ≠ "help")
    {c : κ} (h : dispatch d.mode d.context (token :: rest) l.table = .done (.command c))
    {e : Device} (hrun : l.run SortedMap.empty c d = e) : Leads [line] d e := by
  subst hrun
  have hsame := hself c SortedMap.empty SortedMap.empty
  have hecho : (echo line d).forget = d.forget := rfl
  exact (congrArg forget (interpret_of_command hspeaks hwords hmark hhelp h _)).trans
    (hsame.congr hsame hecho)

/-- A line of which the table makes nothing leads nowhere. -/
theorem leads_of_unknown (hspeaks : l.Speaks d) (hwords : Text.words line = token :: rest)
    (hmark : token ≠ "?") (hhelp : token ≠ "help")
    (h : dispatch d.mode d.context (token :: rest) l.table = .unknown) : Leads [line] d d := by
  obtain ⟨help, hinterpret⟩ := hspeaks
  have hv : l.verdict? line d = some .unknown :=
    (l.verdict?_of_words d hwords hmark hhelp).trans (congrArg some h)
  show (d.interpret SortedMap.empty line).forget = d.forget
  rw [hinterpret, interpret_of_some hv]
  rfl

/-- A line without words leads nowhere. -/
theorem leads_of_blank (hspeaks : l.Speaks d) (hblank : Text.trim line = "") :
    Leads [line] d d := by
  obtain ⟨help, hinterpret⟩ := hspeaks
  have hprompt : l.interpret help SortedMap.empty line d = d.log d.prompt := by
    simp [interpret, hblank]
  show (d.interpret SortedMap.empty line).forget = d.forget
  rw [hinterpret, hprompt, forget_log]

/-! ## Along any lines -/

/-- What is kept by printing and by the meanings of the table is kept by a line. -/
theorem kept_interpret {P : Device → Prop} (hlog : ∀ {d : Device} text, P d → P (d.log text))
    {devices : Inventory}
    (hdone : ∀ {d : Device} {m : Request κ}, P d →
      dispatch d.mode d.context (Text.words line) l.table = .done m →
      P (l.act devices (.done m) d))
    (h : P d) (help : List String) : P (l.interpret help devices line d) := by
  have hlogs : ∀ texts : List String, P (d.logAll texts) := by
    intro texts
    induction texts generalizing d with
    | nil => exact h
    | cons text texts ih => exact ih (hlog text h)
  cases hv : l.verdict? line d with
  | none =>
    obtain ⟨texts, htexts⟩ := interpret_of_none hv help devices
    exact htexts ▸ hlogs texts
  | some v =>
    have hecho : P (echo line d) := hlog _ h
    rw [interpret_of_some hv]
    cases v with
    | done m =>
      have hdispatch := dispatch_of_verdict? hv
      rw [Text.words_trim] at hdispatch
      exact hdone hecho hdispatch
    | incomplete => exact hlog _ hecho
    | unknown => exact hlog _ hecho

/-- What is kept by the rules that can open with the first word of a line is kept by the line. -/
theorem kept_of_word {P : Device → Prop} (hlog : ∀ {d : Device} text, P d → P (d.log text))
    (htable : ∀ r ∈ l.table, r.pattern.opensWith (Text.lower token) = true → ∀ caps,
      ∃ c, r.meaning caps = .command c ∧ ∀ devices {d}, P d → P (l.run devices c d))
    (hwords : Text.words line = token :: rest) (h : P d) (help : List String)
    (devices : Inventory) : P (l.interpret help devices line d) := by
  refine kept_interpret hlog ?_ h help
  intro d m h hdone
  rw [hwords] at hdone
  obtain ⟨r, hr, hopens, caps, rfl⟩ := exists_rule_of_first_word hdone
  obtain ⟨c, hc, hkept⟩ := htable r hr hopens caps
  rw [hc]
  exact hkept devices h

/-- What is kept by each of some lines is kept along any number of them. -/
theorem kept_lines_of {P : Device → Prop} (allowed : String → Prop)
    (hline : ∀ {d : Device}, d.family = f → P d → ∀ devices line, allowed line →
      P (d.interpret devices line))
    (hfamily : d.family = f) (h : P d) {lines : List (Inventory × String)}
    (hlines : ∀ l ∈ lines, allowed l.2) : P (d.run (lines.map fun l => (l.1, .line l.2))) := by
  induction lines generalizing d with
  | nil => exact h
  | cons l rest ih =>
    obtain ⟨hl, hrest⟩ := List.forall_mem_cons.mp hlines
    exact ih (((Action.line l.2).family_apply l.1 d).trans hfamily) (hline hfamily h l.1 l.2 hl)
      hrest

/-- What is kept by every line is kept along any of them. -/
theorem kept_lines {P : Device → Prop}
    (hline : ∀ {d : Device}, d.family = f → P d → ∀ devices line, P (d.interpret devices line))
    (hfamily : d.family = f) (h : P d) (lines : List (Inventory × String)) :
    P (d.run (lines.map fun l => (l.1, .line l.2))) :=
  kept_lines_of (fun _ => True) (fun hfamily h devices line _ => hline hfamily h devices line)
    hfamily h fun _ _ => trivial

/-- The table makes the command of some line. -/
def FromLine (l : Dialect κ) (c : κ) : Prop :=
  ∃ mode context line, dispatch mode context (Text.words line) l.table = .done (.command c)

section Related

variable {α : Type} {v : Device → α} {R : α → α → Prop}

/-- A carried line does to the configuration what the command in it does, or nothing. -/
theorem related_runCarried (hv : ∀ d : Device, v d.config = v d) (hrefl : ∀ a, R a a)
    (hrun : ∀ c, l.FromLine c → ∀ devices d, R (v d) (v (l.run devices c d)))
    (devices : Inventory) (line : String) (d : Device) :
    R (v d) (v (l.runCarried devices line d)) := by
  let inner := (d.enter l.carriedMode).within []
  have hinner : v inner = v d := eq_of_config v hv (config_within _ _)
  have hback : ∀ after : Device, v ((after.enter d.mode).within d.context) = v after :=
    fun after => eq_of_config v hv (config_within _ _)
  have hlog : ∀ text, v (inner.log text) = v inner :=
    fun text => eq_of_config v hv (config_log inner text)
  unfold runCarried
  dsimp only
  rw [hback, ← hinner]
  split
  next c hc => exact hrun c ⟨_, _, _, hc⟩ devices inner
  next => exact hrefl _
  next =>
    rw [hlog]
    exact hrefl _
  next =>
    rw [hlog]
    exact hrefl _

/-- What every command of a line does to the configuration, every line does, whether it prints,
    makes a command or carries a line that does. -/
theorem related_interpret (hv : ∀ d : Device, v d.config = v d) (hrefl : ∀ a, R a a)
    (hrun : ∀ c, l.FromLine c → ∀ devices d, R (v d) (v (l.run devices c d)))
    (help : List String) (devices : Inventory) (line : String) (d : Device) :
    R (v d) (v (l.interpret help devices line d)) := by
  have hlogs : ∀ texts, v (d.logAll texts) = v d :=
    fun texts => eq_of_config v hv (config_logAll d texts)
  have hecho : v (echo line d) = v d := eq_of_config v hv (config_log d _)
  have hlog : ∀ text, v ((echo line d).log text) = v (echo line d) :=
    fun text => eq_of_config v hv (config_log _ text)
  cases hverdict : l.verdict? line d with
  | none =>
    obtain ⟨texts, htexts⟩ := interpret_of_none hverdict help devices
    rw [htexts, hlogs]
    exact hrefl _
  | some verdict =>
    rw [interpret_of_some hverdict, ← hecho]
    cases verdict with
    | done m =>
      cases m with
      | command c => exact hrun c ⟨_, _, _, dispatch_of_verdict? hverdict⟩ devices _
      | carried inner => exact related_runCarried hv hrefl hrun devices inner _
    | incomplete =>
      rw [act, hlog]
      exact hrefl _
    | unknown =>
      rw [act, hlog]
      exact hrefl _

end Related

end Dialect

theorem Ios.speaks {d : Device} (h : d.family = .cisco) : Ios.dialect.Speaks d :=
  ⟨_, fun devices line => by rw [Device.interpret, h]⟩

theorem Junos.speaks {d : Device} (h : d.family = .juniper) : Junos.dialect.Speaks d :=
  ⟨_, fun devices line => by rw [Device.interpret, h]⟩

theorem FortiOs.speaks {d : Device} (h : d.family = .fortinet) : FortiOs.dialect.Speaks d :=
  ⟨_, fun devices line => by rw [Device.interpret, h]⟩

theorem PanOs.speaks {d : Device} (h : d.family = .paloAlto) : PanOs.dialect.Speaks d :=
  ⟨_, fun devices line => by rw [Device.interpret, h]⟩

end TrainingLab
