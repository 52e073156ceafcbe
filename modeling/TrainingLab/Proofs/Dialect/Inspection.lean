import TrainingLab.Proofs.Dialect.Junos.Commit
import TrainingLab.Proofs.Text.Words

/-
  Operational lines change nothing. What a line may do depends on where its rule applies and how it
  begins, so the tables are gone through twice: for the commands of the operational modes, and for
  the commands that a line with `show` or `get` in front can come to.

  Proved:
  * `ReadOnlyIn.config_interpret`: a mode with operational commands only.
  * `CarriesSafely.forget_interpret`: a line that carries another into such a mode.
  * `forget_interpret_of_word`: a first word that leads to inspecting commands only.
  * `inspection_readOnly`: all three, for the consoles of all families.
-/

namespace TrainingLab

open Grammar Device

/-- The rule can apply in the mode, to some edited objects. -/
def Grammar.Rule.allows {α : Type} (r : Rule α) (mode : Mode) : Bool :=
  r.modes.isEmpty || r.modes.contains mode

namespace Dialect

variable {κ : Type} {l : Dialect κ}

/-- The rules of the mode stand for commands that touch the console alone, and carry no line. -/
def ReadOnlyIn (l : Dialect κ) (mode : Mode) : Prop :=
  ∀ r ∈ l.table, r.allows mode = true → ∀ caps, ∃ c, r.meaning caps = .command c ∧
    ∀ devices d, (l.run devices c d).config = d.config

/-- Rules that can open with the word stand for commands that only print. -/
def PrintsAfter (l : Dialect κ) (word : String) : Prop :=
  ∀ r ∈ l.table, r.pattern.opensWith word = true → ∀ caps, ∃ c, r.meaning caps = .command c ∧
    ∀ devices d, (l.run devices c d).forget = d.forget

/-- Lines are carried, if at all, into a mode with operational commands only. -/
def CarriesSafely (l : Dialect κ) : Prop :=
  ∀ r ∈ l.table, ∀ caps line, r.meaning caps = .carried line → l.ReadOnlyIn l.carriedMode

/-- The line that a line carries, if the table finds it to carry one. -/
def carried? (l : Dialect κ) (line : String) (d : Device) : Option String :=
  match l.verdict? line d with
  | some (.done (.carried text)) => some text
  | _ => none

theorem forget_echo (line : String) (d : Device) : (echo line d).forget = d.forget :=
  forget_log d _

/-! ## Modes -/

theorem ReadOnlyIn.command_of_done {mode : Mode} (h : l.ReadOnlyIn mode) {context : List Frame}
    {tokens : List String} {m : Request κ}
    (hdone : dispatch mode context tokens l.table = .done m) :
    ∃ c, m = .command c ∧ ∀ devices d, (l.run devices c d).config = d.config := by
  obtain ⟨r, hr, happ, caps, rfl⟩ := exists_rule_of_done hdone
  exact h r hr (Bool.and_eq_true_iff.mp happ).1 caps

/-- In a mode with operational commands only, no line changes the configuration. -/
theorem ReadOnlyIn.config_interpret {d : Device} (h : l.ReadOnlyIn d.mode) (help : List String)
    (devices : Inventory) (line : String) :
    (l.interpret help devices line d).config = d.config := by
  cases hv : l.verdict? line d with
  | none =>
    obtain ⟨texts, htexts⟩ := interpret_of_none hv help devices
    rw [htexts, config_logAll]
  | some v =>
    have hecho : (echo line d).config = d.config := config_eq_of_forget (forget_echo line d)
    rw [interpret_of_some hv, ← hecho]
    have hdone := dispatch_of_verdict? hv
    cases v with
    | done m =>
      obtain ⟨c, rfl, hconfig⟩ := h.command_of_done hdone
      exact hconfig devices _
    | incomplete => exact config_log _ _
    | unknown => exact config_log _ _

/-! ## Carried lines -/

/-- A line that is carried into a mode with operational commands only changes nothing: what it does
    to mode and edited objects is undone. -/
theorem forget_runCarried (h : l.ReadOnlyIn l.carriedMode) (devices : Inventory) (line : String)
    (d : Device) : (l.runCarried devices line d).forget = d.forget := by
  refine forget_eq_of_config ?_ rfl rfl
  unfold runCarried
  simp only [config_within, config_enter]
  cases hv : dispatch l.carriedMode [] (Text.words line) l.table with
  | done m =>
    obtain ⟨c, rfl, hconfig⟩ := h.command_of_done hv
    exact hconfig devices _
  | incomplete => rfl
  | unknown => rfl

theorem CarriesSafely.forget_act (h : l.CarriesSafely) {mode : Mode} {context : List Frame}
    {tokens : List String} {text : String}
    (hdone : dispatch mode context tokens l.table = .done (.carried text)) (devices : Inventory)
    (d : Device) : (l.act devices (.done (.carried text)) d).forget = d.forget := by
  obtain ⟨r, hr, _, caps, hm⟩ := exists_rule_of_done hdone
  exact forget_runCarried (h r hr caps text hm.symm) devices text d

theorem CarriesSafely.forget_interpret (h : l.CarriesSafely) {d : Device} {line text : String}
    (hcarried : l.carried? line d = some text) (help : List String) (devices : Inventory) :
    (l.interpret help devices line d).forget = d.forget := by
  have hv : l.verdict? line d = some (.done (.carried text)) := by
    unfold carried? at hcarried
    split at hcarried
    next heq => cases hcarried; exact heq
    next => cases hcarried
  rw [interpret_of_some hv, ← forget_echo line d]
  exact h.forget_act (dispatch_of_verdict? hv) devices _

/-! ## First words -/

/-- A line whose first word leads to inspecting commands only changes nothing. -/
theorem forget_interpret_of_word {word : String} (h : l.PrintsAfter (Text.lower word))
    {line : String} (hword : (Text.words line).head? = some word) (help : List String)
    (devices : Inventory) (d : Device) :
    (l.interpret help devices line d).forget = d.forget := by
  cases hv : l.verdict? line d with
  | none =>
    obtain ⟨texts, htexts⟩ := interpret_of_none hv help devices
    rw [htexts, forget_logAll]
  | some v =>
    rw [interpret_of_some hv, ← forget_echo line d]
    have hdone := dispatch_of_verdict? hv
    obtain ⟨rest, hrest⟩ : ∃ rest, Text.words line = word :: rest :=
      List.head?_eq_some_iff.mp hword
    rw [Text.words_trim, hrest] at hdone
    cases v with
    | done m =>
      obtain ⟨r, hr, hopens, caps, rfl⟩ := exists_rule_of_first_word hdone
      obtain ⟨c, hc, hforget⟩ := h r hr hopens caps
      rw [hc]
      exact hforget devices _
    | incomplete => exact forget_log _ _
    | unknown => exact forget_log _ _

/-! ## Reading a table -/

theorem readOnlyIn_of_table {mode : Mode} {operational : κ → Bool}
    (hrun : ∀ c, operational c = true → ∀ devices d, (l.run devices c d).config = d.config)
    (htable : ∀ r ∈ l.table, r.allows mode = false ∨
      ∀ caps, ∃ c, r.meaning caps = .command c ∧ operational c = true) : l.ReadOnlyIn mode := by
  intro r hr hallows caps
  rcases htable r hr with hno | hop
  · rw [hno] at hallows
    cases hallows
  · obtain ⟨c, hc, hoperational⟩ := hop caps
    exact ⟨c, hc, hrun c hoperational⟩

theorem printsAfter_of_table {word : String} {inspects : κ → Bool}
    (hrun : ∀ c, inspects c = true → ∀ devices d, (l.run devices c d).forget = d.forget)
    (htable : ∀ r ∈ l.table, r.pattern.opensWith word = false ∨
      ∀ caps, ∃ c, r.meaning caps = .command c ∧ inspects c = true) : l.PrintsAfter word := by
  intro r hr hopens caps
  rcases htable r hr with hno | hin
  · rw [hno] at hopens
    cases hopens
  · obtain ⟨c, hc, hinspects⟩ := hin caps
    exact ⟨c, hc, hrun c hinspects⟩

end Dialect

/-- The words that open the inspecting lines. -/
def inspectionWords : List String := ["show", "get"]

/-- The pattern opens with neither word, as the characters of its text show. -/
theorem not_opensWith_ofList {cs : List Char}
    (h : opensChars ['s', 'h', 'o', 'w'] cs = false ∧ opensChars ['g', 'e', 't'] cs = false) :
    ∀ word ∈ inspectionWords, (Pattern.ofText (String.ofList cs)).opensWith word = false := by
  intro word hword
  obtain rfl | rfl : word = "show" ∨ word = "get" := by simpa [inspectionWords] using hword
  · exact (opensWith_ofList ['s', 'h', 'o', 'w'] cs).trans h.1
  · exact (opensWith_ofList ['g', 'e', 't'] cs).trans h.2

namespace Ios

theorem table_operational : ∀ r ∈ table, (∀ mode ∈ execModes, r.allows mode = false) ∨
    ∀ caps, ∃ c, r.meaning caps = .command c ∧ c.isOperational = true := by
  simp only [table, List.forall_mem_cons]
  repeat first
    | apply And.intro (Or.inr fun _ => ⟨_, rfl, rfl⟩)
    | apply And.intro (Or.inl (by decide))
  exact List.forall_mem_nil _

theorem table_inspects :
    ∀ r ∈ table, (∀ word ∈ inspectionWords, r.pattern.opensWith word = false) ∨
      ∀ caps, ∃ c, r.meaning caps = .command c ∧ c.inspects = true := by
  simp only [table, List.forall_mem_cons]
  repeat first
    | apply And.intro (Or.inr fun _ => ⟨_, rfl, rfl⟩)
    | apply And.intro (Or.inl (not_opensWith_ofList (by decide)))
  exact List.forall_mem_nil _

theorem readOnlyIn_exec {mode : Mode} (h : mode ∈ execModes) : dialect.ReadOnlyIn mode :=
  Dialect.readOnlyIn_of_table (fun _ => config_run_of_operational) fun r hr =>
    (table_operational r hr).imp_left fun hno => hno mode h

theorem carriesSafely : dialect.CarriesSafely := fun _ _ _ _ _ => readOnlyIn_exec (by decide)

theorem printsAfter {word : String} (h : word ∈ inspectionWords) : dialect.PrintsAfter word :=
  Dialect.printsAfter_of_table (fun _ => forget_run_of_inspects) fun r hr =>
    (table_inspects r hr).imp_left fun hno => hno word h

end Ios

namespace Junos

theorem table_inspects :
    ∀ r ∈ table, (∀ word ∈ inspectionWords, r.pattern.opensWith word = false) ∨
      ∀ caps, ∃ c, r.meaning caps = .command c ∧ c.inspects = true := by
  simp only [table, List.forall_mem_cons]
  repeat first
    | apply And.intro (Or.inr fun _ => ⟨_, rfl, rfl⟩)
    | apply And.intro (Or.inl (not_opensWith_ofList (by decide)))
  exact List.forall_mem_nil _

theorem readOnlyIn_user : dialect.ReadOnlyIn .user :=
  Dialect.readOnlyIn_of_table (fun _ => config_run_of_operational) fun r hr =>
    (table_operational r hr).imp_left fun hedit => by rw [Rule.allows, hedit]; rfl

theorem carriesSafely : dialect.CarriesSafely := fun _ _ _ _ _ => readOnlyIn_user

theorem printsAfter {word : String} (h : word ∈ inspectionWords) : dialect.PrintsAfter word :=
  Dialect.printsAfter_of_table (fun _ => forget_run_of_inspects) fun r hr =>
    (table_inspects r hr).imp_left fun hno => hno word h

end Junos

namespace FortiOs

theorem table_inspects :
    ∀ r ∈ table, (∀ word ∈ inspectionWords, r.pattern.opensWith word = false) ∨
      ∀ caps, ∃ c, r.meaning caps = .command c ∧ c.inspects = true := by
  simp only [table, List.forall_mem_cons]
  repeat first
    | apply And.intro (Or.inr fun _ => ⟨_, rfl, rfl⟩)
    | apply And.intro (Or.inl (not_opensWith_ofList (by decide)))
  exact List.forall_mem_nil _

theorem table_commands : ∀ r ∈ table, ∀ caps, ∃ c, r.meaning caps = .command c := by
  simp only [table, List.forall_mem_cons]
  repeat apply And.intro (fun _ => ⟨_, rfl⟩)
  exact List.forall_mem_nil _

/-- No line of FortiOS carries another. -/
theorem carriesSafely : dialect.CarriesSafely := by
  intro r hr caps line hline
  obtain ⟨c, hc⟩ := table_commands r hr caps
  rw [hc] at hline
  cases hline

theorem printsAfter {word : String} (h : word ∈ inspectionWords) : dialect.PrintsAfter word :=
  Dialect.printsAfter_of_table (fun _ => forget_run_of_inspects) fun r hr =>
    (table_inspects r hr).imp_left fun hno => hno word h

end FortiOs

namespace PanOs

theorem table_operational : ∀ r ∈ table, r.allows .user = false ∨
    ∀ caps, ∃ c, r.meaning caps = .command c ∧ c.isOperational = true := by
  simp only [table, List.forall_mem_cons]
  repeat first
    | apply And.intro (Or.inr fun _ => ⟨_, rfl, rfl⟩)
    | apply And.intro (Or.inl rfl)
  exact List.forall_mem_nil _

theorem table_inspects :
    ∀ r ∈ table, (∀ word ∈ inspectionWords, r.pattern.opensWith word = false) ∨
      ∀ caps, ∃ c, r.meaning caps = .command c ∧ c.inspects = true := by
  simp only [table, String.reduceAppend, List.forall_mem_cons]
  repeat first
    | apply And.intro (Or.inr fun _ => ⟨_, rfl, rfl⟩)
    | apply And.intro (Or.inl (not_opensWith_ofList (by decide)))
  exact List.forall_mem_nil _

theorem readOnlyIn_user : dialect.ReadOnlyIn .user :=
  Dialect.readOnlyIn_of_table (fun _ => config_run_of_operational) table_operational

theorem carriesSafely : dialect.CarriesSafely := fun _ _ _ _ _ => readOnlyIn_user

theorem printsAfter {word : String} (h : word ∈ inspectionWords) : dialect.PrintsAfter word :=
  Dialect.printsAfter_of_table (fun _ => forget_run_of_inspects) fun r hr =>
    (table_inspects r hr).imp_left fun hno => hno word h

end PanOs

namespace Cloud

theorem table_commands : ∀ r ∈ table, ∀ caps, ∃ c, r.meaning caps = .command c := by
  simp only [table, List.forall_mem_cons]
  repeat apply And.intro (fun _ => ⟨_, rfl⟩)
  exact List.forall_mem_nil _

theorem readOnlyIn (mode : Mode) : dialect.ReadOnlyIn mode := fun r hr _ caps =>
  (table_commands r hr caps).imp fun c hc =>
    ⟨hc, fun devices d => config_eq_of_forget (forget_run c devices d)⟩

theorem carriesSafely : dialect.CarriesSafely := fun _ _ _ _ _ => readOnlyIn _

theorem printsAfter (word : String) : dialect.PrintsAfter word := fun r hr _ caps =>
  (table_commands r hr caps).imp fun c hc => ⟨hc, forget_run c⟩

end Cloud

/-! ## Consoles -/

namespace Device

/-- The console is where it only operates the device: in the exec modes of IOS, in the operational
    mode of Junos and PAN-OS, and anywhere on a cloud resource. FortiOS has no such place. -/
def Operational (d : Device) : Prop :=
  match d.family with
  | .cisco => d.mode = .user ∨ d.mode = .privileged
  | .juniper => d.mode = .user
  | .fortinet => False
  | .paloAlto => d.mode = .user
  | .cloud => True

/-- The line that a line carries, behind `do` on IOS and behind `run` on Junos and PAN-OS. -/
def carried? (d : Device) (line : String) : Option String :=
  match d.family with
  | .cisco => Ios.dialect.carried? line d
  | .juniper => Junos.dialect.carried? line d
  | .fortinet => FortiOs.dialect.carried? line d
  | .paloAlto => PanOs.dialect.carried? line d
  | .cloud => Cloud.dialect.carried? line d

theorem config_interpret_of_operational {d : Device} (h : d.Operational) (devices : Inventory)
    (line : String) : (d.interpret devices line).config = d.config := by
  unfold Operational at h
  unfold interpret
  cases hf : d.family with
  | cisco =>
    rw [hf] at h
    have hexec : d.mode ∈ Ios.execModes := by simpa [Ios.execModes] using h
    exact (Ios.readOnlyIn_exec hexec).config_interpret _ devices line
  | juniper =>
    rw [hf] at h
    have hmode : Junos.dialect.ReadOnlyIn d.mode := h ▸ Junos.readOnlyIn_user
    exact hmode.config_interpret _ devices line
  | fortinet =>
    rw [hf] at h
    exact h.elim
  | paloAlto =>
    rw [hf] at h
    have hmode : PanOs.dialect.ReadOnlyIn d.mode := h ▸ PanOs.readOnlyIn_user
    exact hmode.config_interpret _ devices line
  | cloud => exact (Cloud.readOnlyIn d.mode).config_interpret _ devices line

theorem forget_interpret_of_carried {d : Device} {line text : String}
    (h : d.carried? line = some text) (devices : Inventory) :
    (d.interpret devices line).forget = d.forget := by
  unfold carried? at h
  unfold interpret
  cases hf : d.family <;> rw [hf] at h
  case cisco => exact Ios.carriesSafely.forget_interpret h _ devices
  case juniper => exact Junos.carriesSafely.forget_interpret h _ devices
  case fortinet => exact FortiOs.carriesSafely.forget_interpret h _ devices
  case paloAlto => exact PanOs.carriesSafely.forget_interpret h _ devices
  case cloud => exact Cloud.carriesSafely.forget_interpret h _ devices

theorem forget_interpret_of_word {line word : String}
    (h : (Text.words line).head? = some word) (hword : Text.lower word ∈ inspectionWords)
    (devices : Inventory) (d : Device) : (d.interpret devices line).forget = d.forget := by
  unfold interpret
  cases d.family with
  | cisco => exact Dialect.forget_interpret_of_word (Ios.printsAfter hword) h _ devices d
  | juniper => exact Dialect.forget_interpret_of_word (Junos.printsAfter hword) h _ devices d
  | fortinet => exact Dialect.forget_interpret_of_word (FortiOs.printsAfter hword) h _ devices d
  | paloAlto => exact Dialect.forget_interpret_of_word (PanOs.printsAfter hword) h _ devices d
  | cloud => exact Dialect.forget_interpret_of_word (Cloud.printsAfter _) h _ devices d

/-- **Operation is read-only.** Where a console only operates its device, no line changes the
    configuration, live or staged. A line that carries another changes nothing at all, whatever it
    carries, and neither does a line whose first word is `show` or `get`, in any case of its
    letters, wherever it is entered. -/
theorem inspection_readOnly (d : Device) (devices : Inventory) (line : String) :
    (d.Operational → (d.interpret devices line).config = d.config) ∧
    (∀ text, d.carried? line = some text → (d.interpret devices line).forget = d.forget) ∧
    (∀ word, (Text.words line).head? = some word → Text.lower word ∈ ["show", "get"] →
      (d.interpret devices line).forget = d.forget) :=
  ⟨fun h => config_interpret_of_operational h devices line,
    fun _ h => forget_interpret_of_carried h devices,
    fun _ h hword => forget_interpret_of_word h hword devices d⟩

/-- `enable` opens the exec mode and nothing else; `do disable` in the configuration of an interface
    changes nothing, and neither does `SHOW` with anything behind it. -/
theorem inspection_readOnly_nested :
    let d : Device := { id := "r1", name := "r1", kind := .router, vendor := .cisco }
    let inner : Device :=
      { d with mode := .configInterface, context := [⟨.interface, "Gi0/0"⟩] }
    let none : Inventory := SortedMap.empty
    (d.interpret none "enable").config = d.config ∧
      (inner.interpret none "do disable").forget = inner.forget ∧
      (inner.interpret none " SHOW vlan brief").forget = inner.forget := by
  intro d inner none
  refine ⟨?_, ?_, ?_⟩
  · exact (inspection_readOnly d none "enable").1 (Or.inl rfl)
  · exact (inspection_readOnly inner none "do disable").2.1 "disable" (by decide +kernel)
  · exact (inspection_readOnly inner none " SHOW vlan brief").2.2 "SHOW" (by decide +kernel)
      (by decide +kernel)

end Device

end TrainingLab
