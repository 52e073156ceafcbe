import TrainingLab.Dialect.PanOs.Command
import TrainingLab.Proofs.Device.Operation

/-
  What the commands of PAN-OS do. All of them are orderly (`orderly_run`), so they do the same
  whatever the history (`sameEffect_run`), and none that turns something down changes anything
  (`atomic_run`). Those that inspect do nothing but print (`forget_run_of_inspects`), the others do
  not look at the other devices (`run_eq_of_acts`), and those of the operational mode touch the
  console alone (`config_run_of_operational`).
-/

namespace TrainingLab.PanOs

open Device

/-! ## Rejections -/

/-- The texts that turn down a line or a value. -/
def Rejection (text : String) : Prop :=
  text = invalidSyntax ∨ text = incompleteCommand ∨ ∃ name, text = name ++ " does not exist"

theorem not_rejection {cs : List Char} (hinvalid : String.ofList cs ≠ invalidSyntax)
    (hincomplete : String.ofList cs ≠ incompleteCommand) (hlast : cs.getLast? ≠ some 't') :
    ¬ Rejection (String.ofList cs) := by
  rintro (hbad | hbad | ⟨name, hbad⟩)
  · exact hinvalid hbad
  · exact hincomplete hbad
  · have hchars := congrArg (fun text => text.toList.getLast?) hbad
    simp only [String.toList_append, String.toList_ofList, List.getLast?_append] at hchars
    exact hlast hchars

/-! ## Operations -/

theorem orderly_setRule (name field value : String) :
    Orderly Rejection (setRule name field value) := by
  unfold setRule
  cases RuleField.read? field value with
  | none => exact .logged invalidSyntax
  | some f =>
    refine .choice (p := fun d => d.policies.any fun p => p.name == name)
      (fun _ _ => Iff.rfl) ?_ ?_
    · exact .silent fun _ _ => ⟨rfl, rfl, rfl⟩
    · intro earlier d
      simp only [policies_prepend]
      cases Policy.nextId? d.policies with
      | none => exact .logged earlier d invalidSyntax
      | some id => exact .silent rfl rfl rfl

theorem orderly_deleteRule (name : String) : Orderly Rejection (deleteRule name) := by
  refine .choice (p := fun d => d.policies.any fun p => p.name == name) (fun _ _ => Iff.rfl) ?_
    (.logged _)
  exact .silent fun _ _ => ⟨rfl, rfl, rfl⟩

/-- All commands are orderly. -/
theorem orderly_run (c : Command) (devices : Inventory) : Orderly Rejection (c.run devices) := by
  cases c with
  | accept | setZone | setHostname | addRoute => exact .silent fun _ _ => ⟨rfl, rfl, rfl⟩
  | configure =>
    have hgood : ¬ Rejection "Entering configuration mode" :=
      not_rejection (by decide) (by decide) (by decide)
    have henter : Accepting Rejection fun d => d.enter .config :=
      .silent fun _ _ => ⟨rfl, rfl, rfl⟩
    exact (henter.comp (.noted (Text.feed_not_mem_ofList (by decide)) hgood)).orderly
  | exit =>
    have hgood : ¬ Rejection "Exiting configuration mode" :=
      not_rejection (by decide) (by decide) (by decide)
    have henter : Accepting Rejection fun d => d.enter .user :=
      .silent fun _ _ => ⟨rfl, rfl, rfl⟩
    exact (henter.comp (.noted (Text.feed_not_mem_ofList (by decide)) hgood)).orderly
  | setAddress interface cidr =>
    have hgood : ¬ Rejection "[OK]" := not_rejection (by decide) (by decide) (by decide)
    have hset : Accepting Rejection fun d => d.editInterface interface fun i => i.setCidr cidr :=
      .silent fun _ _ => ⟨rfl, rfl, rfl⟩
    have hdone : Accepting Rejection fun d => d.log "[OK]" :=
      .noted (Text.feed_not_mem_ofList (by decide)) hgood
    exact (hdone.comp hset).orderly
  | testPolicy words =>
    have hreply : Orderly Rejection fun d => d.logAll [queryReply d (Query.ofWords words)] :=
      .printed fun _ _ => rfl
    exact hreply
  | loadConfig file => exact .logged _
  | setRule name field value => exact orderly_setRule name field value
  | deleteRule name => exact orderly_deleteRule name
  | _ => exact .printed fun _ _ => rfl

/-- No command both turns something down and changes something. -/
theorem atomic_run (c : Command) (devices : Inventory) (d : Device) :
    Atomic Rejection d (c.run devices d) := (orderly_run c devices).atomic d

/-! ## Inspection and operation -/

/-- The command prints, and does nothing else. -/
def Command.inspects : Command → Bool
  | print _ => true
  | testPolicy _ => true
  | ping _ => true
  | showInterfaces => true
  | showLogicalInterfaces => true
  | showHardwareInterfaces => true
  | showRoutes => true
  | showSystemInfo => true
  | showArp => true
  | showSecurityPolicy => true
  | loadConfig _ => true
  | _ => false

/-- The command is one of the operational mode: it inspects, does nothing, or goes over to another
    mode. -/
def Command.isOperational : Command → Bool
  | accept => true
  | configure => true
  | exit => true
  | c => c.inspects

theorem forget_run_of_inspects {c : Command} (h : c.inspects = true) (devices : Inventory)
    (d : Device) : (c.run devices d).forget = d.forget := by
  cases c with
  | print | ping | showInterfaces | showLogicalInterfaces | showHardwareInterfaces | showRoutes
  | showSystemInfo | showArp | showSecurityPolicy => exact forget_logAll d _
  | testPolicy | loadConfig => exact forget_log d _
  | _ => cases h

/-- A command that does more than print does not look at the other devices. -/
theorem run_eq_of_acts {c : Command} (h : c.inspects = false) (devices others : Inventory) :
    c.run devices = c.run others := by
  cases c <;> first | rfl | cases h

/-- Apart from what it prints, a command does the same whatever the history and the other
    devices. -/
theorem sameEffect_run (c : Command) (devices others : Inventory) :
    SameEffect (c.run devices) (c.run others) := by
  cases h : c.inspects with
  | true => exact .of_forget (forget_run_of_inspects h devices) (forget_run_of_inspects h others)
  | false =>
    rw [run_eq_of_acts h devices others]
    exact (orderly_run c others).sameEffect

/-- A command of the operational mode touches the console alone. -/
theorem config_run_of_operational {c : Command} (h : c.isOperational = true)
    (devices : Inventory) (d : Device) : (c.run devices d).config = d.config := by
  by_cases hi : c.inspects = true
  · exact config_eq_of_forget (forget_run_of_inspects hi devices d)
  · cases c
    case accept => rfl
    case configure => rfl
    case exit => rfl
    all_goals first | exact absurd rfl hi | cases h

end TrainingLab.PanOs
