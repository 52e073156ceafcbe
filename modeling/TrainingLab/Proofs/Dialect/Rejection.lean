import TrainingLab.Proofs.Dialect.Inspection

/-
  Rejections are atomic. Whatever a family says when it turns something down, be it a line that no
  rule takes, a value that is not valid or an object that is not there, it says before it changes
  anything. That the commands keep to this is shown with the commands of each family; lines that
  carry others keep to it because they change nothing (`CarriesSafely`).

  Proved:
  * `atomic_interpret`: lines of a dialect whose commands are atomic.
  * `rejected_unchanged`: the consoles of all families.
-/

namespace TrainingLab

open Grammar Device

/-- The device after the echo of a line: the line behind the prompt, or the prompt alone if the
    line is blank. -/
def Device.echoed (d : Device) (line : String) : Device :=
  if Text.trim line = "" then d.log d.prompt else Dialect.echo line d

theorem Device.forget_echoed (d : Device) (line : String) :
    (d.echoed line).forget = d.forget := by
  unfold echoed
  split <;> exact forget_log d _

namespace Dialect

variable {κ : Type} {l : Dialect κ} {rejection : String → Prop}

/-- No command both turns something down and changes something. -/
def AtomicCommands (l : Dialect κ) (rejection : String → Prop) : Prop :=
  ∀ c devices d, Atomic rejection d (l.run devices c d)

theorem history_runCarried (h : l.AtomicCommands rejection) (devices : Inventory) (line : String)
    (d : Device) : ∃ replies, (l.runCarried devices line d).history = d.history ++ replies := by
  have hinner : ∀ after, Atomic rejection ((d.enter l.carriedMode).within []) after →
      ∃ replies, ((after.enter d.mode).within d.context).history = d.history ++ replies :=
    fun _ ⟨replies, hreplies, _⟩ => ⟨replies, hreplies⟩
  unfold runCarried
  apply hinner
  split
  next c _ => exact h c devices _
  next => exact .unchanged _
  next => exact .logged _ _
  next => exact .logged _ _

theorem atomic_act (h : l.AtomicCommands rejection) (hcarries : l.CarriesSafely) {mode : Mode}
    {context : List Frame} {tokens : List String} {v : Verdict (Request κ)}
    (hv : dispatch mode context tokens l.table = v) (devices : Inventory) (d : Device) :
    Atomic rejection d (l.act devices v d) := by
  cases v with
  | done m =>
    cases m with
    | command c => exact h c devices d
    | carried line =>
      obtain ⟨replies, hreplies⟩ := history_runCarried h devices line d
      exact ⟨replies, hreplies, fun _ => hcarries.forget_act hv devices d⟩
  | incomplete => exact .logged d _
  | unknown => exact .logged d _

/-- If the commands are atomic, so are the lines. -/
theorem atomic_interpret (h : l.AtomicCommands rejection) (hcarries : l.CarriesSafely)
    (help : List String) (devices : Inventory) (line : String) (d : Device) :
    Atomic rejection (d.echoed line) (l.interpret help devices line d) := by
  unfold echoed
  by_cases hblank : Text.trim line = ""
  · have hprompt : l.interpret help devices line d = d.log d.prompt := by
      simp [interpret, hblank]
    rw [hprompt, if_pos hblank]
    exact .unchanged _
  · rw [if_neg hblank]
    by_cases hhelp : Text.words (Text.trim line) = ["?"] ∨ Text.words (Text.trim line) = ["help"]
    · have hlist : l.interpret help devices line d = (echo line d).logAll help := by
        simp [interpret, echo, hblank, hhelp]
      rw [hlist]
      exact .printed _ help
    · have hv : l.verdict? line d =
          some (dispatch d.mode d.context (Text.words (Text.trim line)) l.table) := by
        simp [verdict?, hblank, hhelp]
      rw [interpret_of_some hv]
      exact atomic_act h hcarries rfl devices _

end Dialect

/-! ## Consoles -/

/-- The texts by which a family turns something down. -/
def Family.Rejection : Family → String → Prop
  | cisco, text => Ios.Rejection text
  | juniper, text => Junos.Rejection text
  | fortinet, text => FortiOs.Rejection text
  | paloAlto, text => PanOs.Rejection text
  | cloud, text => text = Cloud.unsupported

theorem Ios.atomicCommands : Ios.dialect.AtomicCommands Ios.Rejection := Ios.atomic_run

theorem Junos.atomicCommands : Junos.dialect.AtomicCommands Junos.Rejection := Junos.atomic_run

theorem FortiOs.atomicCommands : FortiOs.dialect.AtomicCommands FortiOs.Rejection :=
  FortiOs.atomic_run

theorem PanOs.atomicCommands : PanOs.dialect.AtomicCommands PanOs.Rejection := PanOs.atomic_run

theorem Cloud.atomicCommands : Cloud.dialect.AtomicCommands (fun text => text = unsupported) :=
  fun c devices d => (Cloud.orderly_run c devices).atomic d

namespace Device

/-- **Rejections are atomic.** A line is echoed and then answered. If one line of the answer is a
    text by which the family turns something down, then nothing but the history has changed:
    neither the configuration, live or staged, nor the mode or the edited objects. -/
theorem rejected_unchanged (d : Device) (devices : Inventory) (line : String) :
    ∃ answer, (d.interpret devices line).history = (d.echoed line).history ++ answer ∧
      ((∃ text ∈ answer, d.family.Rejection text) →
        (d.interpret devices line).forget = d.forget) := by
  have hatomic : Atomic d.family.Rejection (d.echoed line) (d.interpret devices line) := by
    unfold interpret
    cases d.family with
    | cisco =>
      exact Dialect.atomic_interpret Ios.atomicCommands Ios.carriesSafely _ devices line d
    | juniper =>
      exact Dialect.atomic_interpret Junos.atomicCommands Junos.carriesSafely _ devices line d
    | fortinet =>
      exact Dialect.atomic_interpret FortiOs.atomicCommands FortiOs.carriesSafely _ devices line d
    | paloAlto =>
      exact Dialect.atomic_interpret PanOs.atomicCommands PanOs.carriesSafely _ devices line d
    | cloud =>
      exact Dialect.atomic_interpret Cloud.atomicCommands Cloud.carriesSafely _ devices line d
  rw [← d.forget_echoed line]
  exact hatomic

/-- A VLAN is not created for an access port if no interface is open, and a rule that does not exist
    is not deleted. -/
theorem rejected_unchanged_access_vlan :
    let switch : Device :=
      { id := "sw", name := "sw", kind := .switch, vendor := .cisco, mode := .configInterface }
    let firewall : Device :=
      { id := "fw", name := "fw", kind := .firewall, vendor := .paloAlto, mode := .config }
    let none : Inventory := SortedMap.empty
    (switch.interpret none "switchport access vlan 10").forget = switch.forget ∧
      (firewall.interpret none "delete rulebase security rules web").forget =
        firewall.forget := by
  intro switch firewall none
  refine ⟨?_, ?_⟩
  · obtain ⟨answer, hanswer, hatomic⟩ :=
      switch.rejected_unchanged none "switchport access vlan 10"
    have hprinted : (switch.interpret none "switchport access vlan 10").history =
        (switch.echoed "switchport access vlan 10").history ++ ["% Incomplete command."] := by
      decide +kernel
    rw [List.append_cancel_left (hanswer.symm.trans hprinted)] at hatomic
    exact hatomic ⟨_, List.mem_singleton_self _, Or.inr (Or.inr rfl)⟩
  · obtain ⟨answer, hanswer, hatomic⟩ :=
      firewall.rejected_unchanged none "delete rulebase security rules web"
    have hprinted : (firewall.interpret none "delete rulebase security rules web").history =
        (firewall.echoed "delete rulebase security rules web").history ++
          ["web does not exist"] := by
      decide +kernel
    rw [List.append_cancel_left (hanswer.symm.trans hprinted)] at hatomic
    exact hatomic ⟨_, List.mem_singleton_self _, Or.inr (Or.inr ⟨"web", rfl⟩)⟩

end Device

end TrainingLab
