import TrainingLab.Dialect.Ios.Command
import TrainingLab.Proofs.Device.Operation
import TrainingLab.Proofs.Text.Decimal

/-
  What the commands of IOS do. All but the one that lists the history are orderly (`orderly_run`),
  so they do the same whatever the history (`sameEffect_run`), and none that turns something down
  changes anything (`atomic_run`). Those that inspect do nothing but print
  (`forget_run_of_inspects`), the others do not look at the other devices (`run_eq_of_acts`), and
  those of the exec modes touch the console alone (`config_run_of_operational`).
-/

namespace TrainingLab.Ios

open Device

/-! ## Rejections -/

/-- The texts that turn down a line or a value. -/
def Rejection (text : String) : Prop :=
  text = unknownCommand ∨ text = invalidInput ∨ text = incompleteCommand

/-- No rejection goes on with an `A`, as the notice of a new VLAN does. -/
theorem third_of_rejection {text : String} (h : Rejection text) : text.toList[2]? ≠ some 'A' := by
  rcases h with rfl | rfl | rfl
  · rw [unknownCommand, String.toList_ofList]
    decide
  · rw [invalidInput, String.toList_ofList]
    decide
  · rw [incompleteCommand, String.toList_ofList]
    decide

/-! ## Operations -/

theorem orderly_editInterface (f : Interface → Interface) :
    Orderly Rejection (editInterface f) := by
  intro earlier d
  simp only [editInterface, frameName?_prepend]
  cases d.frameName? .interface with
  | some name => exact .silent rfl rfl rfl
  | none => exact .logged earlier d incompleteCommand

theorem orderly_exitMode : Orderly Rejection exitMode := by
  intro earlier d
  simp only [exitMode, mode_prepend]
  cases d.mode <;> exact .silent rfl rfl rfl

theorem orderly_addRoute (ip mask nextHop : String) :
    Orderly Rejection (addRoute ip mask nextHop) := by
  unfold addRoute
  cases Network.readNetwork? ip mask with
  | some net => exact .silent fun _ _ => ⟨rfl, rfl, rfl⟩
  | none => exact .logged invalidInput

theorem orderly_removeRoute (ip mask : String) (nextHop : Option String) :
    Orderly Rejection (removeRoute ip mask nextHop) := by
  unfold removeRoute
  cases Network.readNetwork? ip mask with
  | some net => exact .silent fun _ _ => ⟨rfl, rfl, rfl⟩
  | none => exact .logged invalidInput

theorem orderly_enterVlan (id : String) : Orderly Rejection (enterVlan id) := by
  unfold enterVlan
  cases vlanId? id with
  | some v => exact .silent fun _ _ => ⟨rfl, rfl, rfl⟩
  | none => exact .logged invalidInput

theorem orderly_nameVlan (name : String) : Orderly Rejection (nameVlan name) := by
  intro earlier d
  simp only [nameVlan, frameName?_prepend]
  cases (d.frameName? .vlan).bind Text.readUInt16? with
  | some v => exact .silent rfl rfl rfl
  | none => exact .logged earlier d incompleteCommand

/-- The notice of a new VLAN is no rejection. -/
theorem accepting_noticeVlan (v : UInt16) : Accepting Rejection (noticeVlan v) := by
  have hline : '\n' ∉ ("% Access VLAN does not exist. Creating vlan " ++ toString v).toList := by
    rw [String.toList_append, List.mem_append, not_or]
    exact ⟨Text.feed_not_mem_ofList (by decide), Text.feed_not_mem_toString v.toNat⟩
  have hgood : ¬ Rejection ("% Access VLAN does not exist. Creating vlan " ++ toString v) := by
    intro hbad
    have hthird := third_of_rejection hbad
    rw [String.toList_append, List.getElem?_append_left (by rw [String.toList_ofList]; decide),
      String.toList_ofList] at hthird
    exact absurd hthird (by decide)
  have hcreate : Accepting Rejection fun d =>
      { d with vlans := d.vlans.insert v (defaultVlanName v) } :=
    .silent fun _ _ => ⟨rfl, rfl, rfl⟩
  exact .choice (p := fun d => d.vlans.contains v) (fun _ _ => Iff.rfl)
    (.silent fun _ _ => ⟨rfl, rfl, rfl⟩) (hcreate.comp (.noted hline hgood))

/-- The interface is looked for before the VLAN is made, so it is still there afterwards. -/
theorem editInterface_noticeVlan {d : Device} {name : String}
    (h : d.frameName? .interface = some name) (v : UInt16) (f : Interface → Interface) :
    editInterface f (noticeVlan v d) = (noticeVlan v d).editInterface name f := by
  have hkept : (noticeVlan v d).frameName? .interface = some name := by
    rw [← h]
    unfold noticeVlan
    split <;> rfl
  rw [editInterface, hkept]

theorem orderly_setAccessVlan (id : String) : Orderly Rejection (setAccessVlan id) := by
  unfold setAccessVlan
  cases vlanId? id with
  | none => exact .logged invalidInput
  | some v =>
    intro earlier d
    dsimp only
    cases hname : d.frameName? .interface with
    | none =>
      rw [frameName?_prepend, hname]
      exact .logged earlier d incompleteCommand
    | some name =>
      have hset : Accepting Rejection fun d => d.editInterface name fun i => i.setVlan (some v) :=
        .silent fun _ _ => ⟨rfl, rfl, rfl⟩
      have hearlier : (d.prepend earlier).frameName? .interface = some name := hname
      rw [hearlier, editInterface_noticeVlan hname, editInterface_noticeVlan hearlier]
      exact (hset.comp (accepting_noticeVlan v)).orderly earlier d

/-! ## Commands -/

/-- All commands but the one that lists the history are orderly. -/
theorem orderly_run {c : Command} (h : c ≠ .showHistory) (devices : Inventory) :
    Orderly Rejection (c.run devices) := by
  cases c with
  | exit => exact orderly_exitMode
  | leave =>
    refine .choice (p := fun d => d.mode = .user) (fun _ _ => Iff.rfl) ?_ ?_
    · exact .silent fun _ _ => ⟨rfl, rfl, rfl⟩
    · exact .silent fun _ _ => ⟨rfl, rfl, rfl⟩
  | accept | enable | disable | setHostname | enterInterface | enterRouter =>
    exact .silent fun _ _ => ⟨rfl, rfl, rfl⟩
  | configure =>
    have hgood : ¬ Rejection "Enter configuration commands, one per line.  End with CNTL/Z." := by
      unfold Rejection
      decide
    have henter : Accepting Rejection fun d => d.enter .config :=
      .silent fun _ _ => ⟨rfl, rfl, rfl⟩
    exact (henter.comp (.noted (Text.feed_not_mem_ofList (by decide)) hgood)).orderly
  | enterVlan id => exact orderly_enterVlan id
  | addRoute ip mask nextHop => exact orderly_addRoute ip mask nextHop
  | removeRoute ip mask nextHop => exact orderly_removeRoute ip mask nextHop
  | removeVlan id =>
    intro earlier d
    simp only [Command.run]
    cases Text.readUInt16? id <;> exact .silent rfl rfl rfl
  | setAddress | clearAddress | setUp | setDescription | clearAccessVlan | setZone =>
    exact orderly_editInterface _
  | setAccessVlan id => exact orderly_setAccessVlan id
  | nameVlan name => exact orderly_nameVlan name
  | delete target => exact .logged (deleteReply target)
  | showHistory => exact absurd rfl h
  | _ => exact .printed fun _ _ => rfl

/-- No command both turns something down and changes something. -/
theorem atomic_run (c : Command) (devices : Inventory) (d : Device) :
    Atomic Rejection d (c.run devices d) := by
  by_cases h : c = .showHistory
  · rw [h]
    exact .printed d d.enteredCommands
  · exact (orderly_run h devices).atomic d

/-! ## Inspection and operation -/

/-- The command prints, and does nothing else. -/
def Command.inspects : Command → Bool
  | print _ => true
  | ping _ => true
  | traceroute _ => true
  | showHistory => true
  | delete _ => true
  | showInterfaceBrief => true
  | showRunningConfig => true
  | showStartupConfig => true
  | showInterfaces _ => true
  | showRoutes => true
  | showArp => true
  | showNeighbors _ => true
  | showVlans => true
  | _ => false

/-- The command is one of the exec modes: it inspects, or goes over to another mode. -/
def Command.isOperational : Command → Bool
  | accept => true
  | exit => true
  | enable => true
  | disable => true
  | configure => true
  | c => c.inspects

theorem forget_run_of_inspects {c : Command} (h : c.inspects = true) (devices : Inventory)
    (d : Device) : (c.run devices d).forget = d.forget := by
  cases c with
  | print | ping | traceroute | showHistory | showInterfaceBrief | showRunningConfig
  | showStartupConfig | showInterfaces | showRoutes | showArp | showNeighbors | showVlans =>
    exact forget_logAll d _
  | delete target => exact forget_log d _
  | _ => cases h

/-- A command that does more than print does not look at the other devices. -/
theorem run_eq_of_acts {c : Command} (h : c.inspects = false) (devices others : Inventory) :
    c.run devices = c.run others := by
  cases c <;> first | rfl | cases h

/-- Apart from what it prints, a command does the same whatever the history and the other
    devices. -/
theorem sameEffect_run (c : Command) (devices others : Inventory) :
    SameEffect (c.run devices) (c.run others) := by
  cases h : c.inspects with
  | true => exact .of_forget (forget_run_of_inspects h devices) (forget_run_of_inspects h others)
  | false =>
    have hlists : c ≠ .showHistory := by
      rintro rfl
      cases h
    rw [run_eq_of_acts h devices others]
    exact (orderly_run hlists others).sameEffect

theorem config_exitMode (d : Device) : (exitMode d).config = d.config := by
  unfold exitMode
  cases d.mode <;> rfl

/-- A command of the exec modes touches the console alone. -/
theorem config_run_of_operational {c : Command} (h : c.isOperational = true)
    (devices : Inventory) (d : Device) : (c.run devices d).config = d.config := by
  by_cases hi : c.inspects = true
  · exact config_eq_of_forget (forget_run_of_inspects hi devices d)
  · cases c
    case accept => rfl
    case exit => exact config_exitMode d
    case enable => rfl
    case disable => rfl
    case configure => rfl
    all_goals first | exact absurd rfl hi | cases h

end TrainingLab.Ios
