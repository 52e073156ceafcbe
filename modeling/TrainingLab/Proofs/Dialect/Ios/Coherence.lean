import TrainingLab.Proofs.Dialect.Inspection
import TrainingLab.Proofs.Dialect.Typing
import TrainingLab.Proofs.SortedMap

/-
  Mode and edited objects on IOS. The two are kept apart, and each command sets them on its own; no
  run of lines and edits gets them out of step. The object that a console is in is always there: a
  VLAN can only be deleted from the configuration mode, where no VLAN is open, and a carried line
  puts back what it found.

  Proved:
  * `admitted_of_done`: in which modes the table takes which command.
  * `coherent_run`: no command takes the console where it cannot be.
  * `coherent_apply`, `coherent_runAll`: neither does an action, nor a run of any length.
  * `mode_coherence`: with what follows for the settings, which find their object.
-/

namespace TrainingLab.Ios

open Grammar Device

/-! ## Positions -/

/-- A VLAN can have the id. -/
def ValidVlan (v : UInt16) : Prop := 1 ≤ v ∧ v ≤ 4094

/-- The VLANs of the device and those that its interfaces are in can have their ids. -/
structure ValidVlans (d : Device) : Prop where
  listed : ∀ v, d.vlans.contains v = true → ValidVlan v
  access : ∀ name i v, d.interfaces.find? name = some i → i.vlan = some v → ValidVlan v

/-- Where the console of the device can be: in one of the modes, inside the object that belongs to
    the mode, if one does. -/
inductive Position (d : Device) : Mode → List Frame → Prop
  | user : Position d .user []
  | privileged : Position d .privileged []
  | config : Position d .config []
  | interface {name : String} (h : d.interfaces.contains name = true) :
      Position d .configInterface [⟨.interface, name⟩]
  | router {process : String} : Position d .configRouter [⟨.routeProtocol, process⟩]
  | vlan {v : UInt16} (h : d.vlans.contains v = true) :
      Position d .configVlan [⟨.vlan, toString v⟩]

/-- The console is where it can be, the VLANs have valid ids, and nothing is staged. -/
structure Coherent (d : Device) : Prop where
  position : Position d d.mode d.context
  vlans : ValidVlans d
  live : d.candidate = none

namespace Position

variable {d : Device} {mode : Mode} {context : List Frame}

theorem mem_modes (h : Position d mode context) : mode ∈ dialect.modes := by
  cases h <;> decide

/-- Above the objects, none is open. -/
theorem eq_nil (h : Position d mode context) (hmode : mode ∈ [.user, .privileged, .config]) :
    context = [] := by
  cases h with
  | user | privileged | config => rfl
  | interface | router | vlan => exact absurd hmode (by decide)

theorem exists_interface (h : Position d .configInterface context) :
    ∃ name, context = [⟨.interface, name⟩] ∧ d.interfaces.contains name = true := by
  cases h with
  | interface h => exact ⟨_, rfl, h⟩

theorem exists_vlan (h : Position d .configVlan context) :
    ∃ v : UInt16, context = [⟨.vlan, toString v⟩] ∧ d.vlans.contains v = true := by
  cases h with
  | vlan h => exact ⟨_, rfl, h⟩

theorem mono {d' : Device} (h : Position d mode context)
    (hinterfaces : ∀ name, d.interfaces.contains name = true → d'.interfaces.contains name = true)
    (hvlans : ∀ v, d.vlans.contains v = true → d'.vlans.contains v = true) :
    Position d' mode context := by
  cases h with
  | user => exact .user
  | privileged => exact .privileged
  | config => exact .config
  | interface h => exact .interface (hinterfaces _ h)
  | router => exact .router
  | vlan h => exact .vlan (hvlans _ h)

end Position

/-! ## Steps that keep the objects -/

/-- Every object is still there, ids stay valid, and the console is where it was. -/
structure KeepsObjects (d d' : Device) : Prop where
  mode : d'.mode = d.mode
  context : d'.context = d.context
  candidate : d'.candidate = d.candidate
  interfaces : ∀ name, d.interfaces.contains name = true → d'.interfaces.contains name = true
  listed : ∀ v, d.vlans.contains v = true → d'.vlans.contains v = true
  vlans : ValidVlans d → ValidVlans d'

variable {d : Device}

theorem Coherent.keep {d' : Device} (h : Coherent d) (hkeep : KeepsObjects d d') :
    Coherent d' where
  position := hkeep.mode ▸ hkeep.context ▸ h.position.mono hkeep.interfaces hkeep.listed
  vlans := hkeep.vlans h.vlans
  live := hkeep.candidate.trans h.live

namespace KeepsObjects

variable {d d' : Device}

theorem of_same (hmode : d'.mode = d.mode) (hcontext : d'.context = d.context)
    (hcandidate : d'.candidate = d.candidate) (hinterfaces : d'.interfaces = d.interfaces)
    (hvlans : d'.vlans = d.vlans) : KeepsObjects d d' where
  mode := hmode
  context := hcontext
  candidate := hcandidate
  interfaces := fun _ h => hinterfaces ▸ h
  listed := fun _ h => hvlans ▸ h
  vlans := fun h => ⟨hvlans ▸ h.listed, hinterfaces ▸ h.access⟩

theorem of_forget (h : d'.forget = d.forget) : KeepsObjects d d' :=
  .of_same (eq_of_forget Device.mode (fun _ => rfl) h)
    (eq_of_forget Device.context (fun _ => rfl) h)
    (eq_of_forget Device.candidate (fun _ => rfl) h)
    (eq_of_forget Device.interfaces (fun _ => rfl) h)
    (eq_of_forget Device.vlans (fun _ => rfl) h)

theorem printed (d : Device) (texts : List String) : KeepsObjects d (d.logAll texts) :=
  of_forget (forget_logAll d texts)

theorem logged (d : Device) (text : String) : KeepsObjects d (d.log text) :=
  of_forget (forget_log d text)

theorem trans {d'' : Device} (h : KeepsObjects d d') (h' : KeepsObjects d' d'') :
    KeepsObjects d d'' where
  mode := h'.mode.trans h.mode
  context := h'.context.trans h.context
  candidate := h'.candidate.trans h.candidate
  interfaces := fun name hname => h'.interfaces name (h.interfaces name hname)
  listed := fun v hv => h'.listed v (h.listed v hv)
  vlans := fun hvlans => h'.vlans (h.vlans hvlans)

/-- A change of an interface that puts it, if anywhere, into a VLAN with a valid id. -/
theorem of_editInterface (d : Device) (name : String) {f : Interface → Interface}
    (hf : ∀ i v, (f i).vlan = some v → i.vlan = some v ∨ ValidVlan v) :
    KeepsObjects d (d.editInterface name f) where
  mode := rfl
  context := rfl
  candidate := rfl
  interfaces := fun other hother => by
    rw [Device.editInterface, SortedMap.contains_insert, hother, ite_self]
  listed := fun _ h => h
  vlans := fun h => by
    refine ⟨h.listed, fun other i v hi hv => ?_⟩
    rw [Device.editInterface, SortedMap.find?_insert] at hi
    split at hi
    next =>
      cases hi
      rcases hf _ v hv with hold | hvalid
      · cases hfind : d.interfaces.find? name with
        | none => rw [hfind] at hold; cases hold
        | some i => rw [hfind] at hold; exact h.access name i v hfind hold
      · exact hvalid
    next => exact h.access other i v hi hv

/-- A new VLAN, or a new name for one. -/
theorem of_insertVlan (d : Device) {v : UInt16} (hv : ValidVlan v) (name : String) :
    KeepsObjects d { d with vlans := d.vlans.insert v name } where
  mode := rfl
  context := rfl
  candidate := rfl
  interfaces := fun _ h => h
  listed := fun other hother => by
    rw [SortedMap.contains_insert, hother, ite_self]
  vlans := fun h => by
    refine ⟨fun other hother => ?_, h.access⟩
    rw [SortedMap.contains_insert] at hother
    split at hother
    next heq => exact heq ▸ hv
    next => exact h.listed other hother

end KeepsObjects

theorem validVlan_of_vlanId? {id : String} {v : UInt16} (h : vlanId? id = some v) :
    ValidVlan v := by
  obtain ⟨_, hrange⟩ := Option.filter_eq_some_iff.mp h
  obtain ⟨hlow, hhigh⟩ : 1 ≤ v ∧ v < 4095 := by simpa using hrange
  refine ⟨hlow, ?_⟩
  rw [UInt16.lt_iff_toNat_lt] at hhigh
  rw [UInt16.le_iff_toNat_le]
  exact Nat.le_of_lt_succ hhigh

theorem keepsObjects_editInterface {f : Interface → Interface}
    (hf : ∀ i v, (f i).vlan = some v → i.vlan = some v ∨ ValidVlan v) (d : Device) :
    KeepsObjects d (editInterface f d) := by
  unfold editInterface
  split
  next name _ => exact .of_editInterface d name hf
  next => exact .logged d incompleteCommand

theorem keepsObjects_noticeVlan {v : UInt16} (hv : ValidVlan v) (d : Device) :
    KeepsObjects d (noticeVlan v d) := by
  unfold noticeVlan
  split
  next => exact .of_same rfl rfl rfl rfl rfl
  next => exact (KeepsObjects.logged d _).trans (.of_insertVlan _ hv (defaultVlanName v))

theorem keepsObjects_setAccessVlan (id : String) (d : Device) :
    KeepsObjects d (setAccessVlan id d) := by
  unfold setAccessVlan
  cases hid : vlanId? id with
  | none => exact .logged d invalidInput
  | some v =>
    have hv := validVlan_of_vlanId? hid
    dsimp only
    split
    next => exact .logged d incompleteCommand
    next =>
      refine (keepsObjects_noticeVlan hv d).trans (keepsObjects_editInterface ?_ _)
      intro i w hw
      cases hw
      exact Or.inr hv

theorem keepsObjects_addRoute (ip mask nextHop : String) (d : Device) :
    KeepsObjects d (addRoute ip mask nextHop d) := by
  unfold addRoute
  cases Network.readNetwork? ip mask with
  | some net => exact .of_same rfl rfl rfl rfl rfl
  | none => exact .logged d invalidInput

theorem keepsObjects_removeRoute (ip mask : String) (nextHop : Option String) (d : Device) :
    KeepsObjects d (removeRoute ip mask nextHop d) := by
  unfold removeRoute
  cases Network.readNetwork? ip mask with
  | some net => exact .of_same rfl rfl rfl rfl rfl
  | none => exact .logged d invalidInput

/-! ## Steps that move the console -/

namespace Coherent

/-- The console goes to where it can be. -/
theorem moved (h : Coherent d) {mode : Mode} {context : List Frame}
    (hposition : Position d mode context) : Coherent ((d.within context).enter mode) where
  position := hposition.mono (fun _ hname => hname) fun _ hv => hv
  vlans := ⟨h.vlans.listed, h.vlans.access⟩
  live := h.live

/-- Where no object is open, another mode without an object can be entered. -/
theorem entered (h : Coherent d) (hmode : d.mode ∈ [.user, .privileged, .config]) {mode : Mode}
    (hposition : Position d mode []) : Coherent (d.enter mode) := by
  have hmoved := h.moved hposition
  rwa [← h.position.eq_nil hmode] at hmoved

theorem exitMode (h : Coherent d) : Coherent (exitMode d) := by
  unfold Ios.exitMode
  split
  next => exact h.moved .config
  next => exact h.moved .config
  next => exact h.moved .config
  next hmode => exact h.entered (by rw [hmode]; decide) .privileged
  next hmode => exact h.entered (by rw [hmode]; decide) .user
  next => exact h

theorem enterInterface (h : Coherent d) (name : String) :
    Coherent (openObject .configInterface .interface name (d.editInterface name id)) := by
  have hkeep : KeepsObjects d (d.editInterface name id) :=
    .of_editInterface d name fun _ _ hv => Or.inl hv
  refine (h.keep hkeep).moved (.interface ?_)
  exact (SortedMap.contains_insert _ _ _ _).trans (if_pos rfl)

theorem enterVlan (h : Coherent d) (id : String) : Coherent (enterVlan id d) := by
  unfold Ios.enterVlan
  cases hid : vlanId? id with
  | none => exact h.keep (.logged d invalidInput)
  | some v =>
    dsimp only
    split
    next hthere => exact h.moved (.vlan hthere)
    next =>
      have hkeep := KeepsObjects.of_insertVlan d (validVlan_of_vlanId? hid) (defaultVlanName v)
      refine (h.keep hkeep).moved (.vlan ?_)
      exact (SortedMap.contains_insert _ _ _ _).trans (if_pos rfl)

/-- Where no VLAN is open, one can be deleted. -/
theorem eraseVlan (h : Coherent d) (hmode : d.mode = .config) (v : UInt16) :
    Coherent { d with vlans := d.vlans.erase v } where
  position := by
    have hcontext : d.context = [] := h.position.eq_nil (by rw [hmode]; decide)
    rw [hmode, hcontext]
    exact .config
  vlans := by
    refine ⟨fun w hw => h.vlans.listed w ?_, h.vlans.access⟩
    rw [SortedMap.contains_erase] at hw
    split at hw
    next => cases hw
    next => exact hw
  live := h.live

theorem nameVlan (h : Coherent d) (hmode : d.mode = .configVlan) (name : String) :
    Coherent (nameVlan name d) := by
  unfold Ios.nameVlan
  have hposition := h.position
  rw [hmode] at hposition
  obtain ⟨v, hcontext, hv⟩ := hposition.exists_vlan
  have hframe : d.frameName? .vlan = some (toString v) := frameName?_of_cons hcontext
  rw [hframe, Option.bind_some, Text.readUInt16?_toString]
  exact h.keep (.of_insertVlan d (h.vlans.listed v hv) name)

end Coherent

/-! ## Commands -/

/-- The command changes the interface that the console is in. -/
def Command.setsInterface : Command → Bool
  | setAddress _ _ => true
  | clearAddress => true
  | setUp _ => true
  | setDescription _ => true
  | setAccessVlan _ => true
  | clearAccessVlan => true
  | setZone _ => true
  | _ => false

/-- The modes in which the command is taken, if they matter to what it does. -/
def Command.modes? : Command → Option (List Mode)
  | enable => some execModes
  | disable => some execModes
  | configure => some execModes
  | removeVlan _ => some [.config]
  | nameVlan _ => some [.configVlan]
  | c => if c.setsInterface then some [.configInterface] else none

/-- The rules of the modes may stand for the command. -/
def Command.suits (c : Command) (modes : List Mode) : Bool :=
  c.modes?.all fun places => !modes.isEmpty && modes.all places.contains

theorem table_suits : ∀ r ∈ table, ∀ caps, (∃ line, r.meaning caps = .carried line) ∨
    ∃ c, r.meaning caps = .command c ∧ c.suits r.modes = true := by
  simp only [table, List.forall_mem_cons]
  repeat first
    | apply And.intro (fun _ => Or.inr ⟨_, rfl, rfl⟩)
    | apply And.intro (fun _ => Or.inl ⟨_, rfl⟩)
  exact List.forall_mem_nil _

/-- The command is one that the table takes in the mode. -/
def Command.Admitted (c : Command) (mode : Mode) : Prop :=
  ∀ places, c.modes? = some places → mode ∈ places

/-- What the table makes of a line is a command that suits the mode. -/
theorem admitted_of_done {mode : Mode} {context : List Frame} {tokens : List String} {c : Command}
    (h : dispatch mode context tokens table = .done (.command c)) : c.Admitted mode := by
  obtain ⟨r, hr, happ, caps, hc⟩ := exists_rule_of_done h
  rcases table_suits r hr caps with ⟨line, hline⟩ | ⟨c', hc', hsuits⟩
  · rw [hline] at hc
    cases hc
  · rw [hc'] at hc
    cases hc
    intro places hplaces
    rw [Command.suits, hplaces, Option.all_some, Bool.and_eq_true, Bool.not_eq_true',
      List.isEmpty_eq_false_iff] at hsuits
    obtain ⟨hne, hall⟩ := hsuits
    rw [Rule.applies, Bool.and_eq_true, Bool.or_eq_true, List.isEmpty_iff] at happ
    have hmode := List.contains_iff_mem.mp (happ.1.resolve_left hne)
    exact List.contains_iff_mem.mp (List.all_eq_true.mp hall mode hmode)

/-- No command that the table takes leads the console to where it cannot be. -/
theorem coherent_run {c : Command} (h : Coherent d) (hc : c.Admitted d.mode)
    (devices : Inventory) : Coherent (c.run devices d) := by
  have hexec : ∀ {mode}, mode ∈ execModes → mode ∈ [.user, .privileged, .config] :=
    fun hmode => List.mem_append_left [Mode.config] hmode
  have hset : ∀ {f : Interface → Interface}, (∀ i, (f i).vlan = i.vlan) →
      Coherent (editInterface f d) :=
    fun hf => h.keep (keepsObjects_editInterface (fun i v hv => Or.inl (hf i ▸ hv)) d)
  cases c with
  | exit => exact h.exitMode
  | leave =>
    rw [Command.run]
    split
    next => exact h
    next => exact h.moved .privileged
  | enable => exact h.entered (hexec (hc _ rfl)) .privileged
  | disable => exact h.entered (hexec (hc _ rfl)) .user
  | configure => exact (h.keep (.logged d _)).entered (hexec (hc _ rfl)) .config
  | enterInterface name => exact h.enterInterface name
  | enterRouter process => exact h.moved .router
  | enterVlan id => exact h.enterVlan id
  | removeVlan id =>
    rw [Command.run]
    split
    next v _ => exact h.eraseVlan (List.mem_singleton.mp (hc _ rfl)) v
    next => exact h
  | nameVlan name => exact h.nameVlan (List.mem_singleton.mp (hc _ rfl)) name
  | accept => exact h
  | setHostname name => exact h.keep (.of_same rfl rfl rfl rfl rfl)
  | addRoute ip mask nextHop => exact h.keep (keepsObjects_addRoute ip mask nextHop d)
  | removeRoute ip mask nextHop => exact h.keep (keepsObjects_removeRoute ip mask nextHop d)
  | setAddress | clearAddress | setUp | setDescription | setZone => exact hset fun _ => rfl
  | setAccessVlan id => exact h.keep (keepsObjects_setAccessVlan id d)
  | clearAccessVlan =>
    exact h.keep (keepsObjects_editInterface (fun _ _ hv => by cases hv) d)
  | _ => exact h.keep (.of_forget (forget_run_of_inspects rfl devices d))

/-! ## Actions -/

theorem coherent_interpret (h : Coherent d) (help : List String) (devices : Inventory)
    (line : String) : Coherent (dialect.interpret help devices line d) := by
  refine Dialect.kept_interpret (fun text h => h.keep (.logged _ text)) ?_ h help
  intro d m h hdone
  cases m with
  | command c => exact coherent_run h (admitted_of_done hdone) devices
  | carried text => exact h.keep (.of_forget (carriesSafely.forget_act hdone devices d))

theorem InterfaceEdit.vlan_apply (e : InterfaceEdit) (i : Interface) :
    (e.apply i).vlan = i.vlan := by
  cases e <;> rfl

theorem coherent_applyEdit (h : Coherent d) (hfamily : d.family = .cisco) (e : GuiEdit) :
    Coherent (d.applyEdit e) := by
  cases e with
  | interface name e =>
    have hstages : d.stagesEdits = false := by rw [stagesEdits, hfamily]; rfl
    simp only [applyEdit, applyInterfaceEdit, hstages, Bool.false_eq_true, if_false]
    split
    next => exact h.keep (.logged d _)
    next =>
      have hedit : KeepsObjects d (d.editInterface name e.apply) :=
        .of_editInterface d name fun i v hv => Or.inl (InterfaceEdit.vlan_apply e i ▸ hv)
      exact h.keep (hedit.trans (.logged _ _))
  | commit =>
    have hnothing : d.hasPendingChanges = false := by rw [hasPendingChanges, h.live]
    have hdiscard : KeepsObjects d d.discard := .of_same rfl rfl h.live.symm rfl rfl
    rw [applyEdit, commit, hnothing]
    exact h.keep (hdiscard.trans (.logged _ _))

theorem coherent_apply (h : Coherent d) (hfamily : d.family = .cisco) (devices : Inventory)
    (a : Action) : Coherent (a.apply devices d) := by
  cases a with
  | line text =>
    unfold Action.apply Device.interpret
    rw [hfamily]
    exact coherent_interpret h _ devices text
  | edit e => exact coherent_applyEdit h hfamily e

theorem coherent_runAll (h : Coherent d) (hfamily : d.family = .cisco)
    (actions : List (Inventory × Action)) : Coherent (d.run actions) := by
  induction actions generalizing d with
  | nil => exact h
  | cons i rest ih =>
    have hstep : Coherent (i.2.apply i.1 d) := coherent_apply h hfamily i.1 i.2
    exact ih hstep ((i.2.family_apply i.1 d).trans hfamily)

/-! ## Settings -/

/-- A line has the console carry out a command on a device: on its own, or in the privileged mode
    for a line that it carries. -/
inductive CarriesOut (d : Device) (line : String) : Command → Device → Prop
  | entered {c : Command} (h : dialect.verdict? line d = some (.done (.command c))) :
      CarriesOut d line c (Dialect.echo line d)
  | carried {c : Command} {text : String}
      (h : dialect.verdict? line d = some (.done (.carried text)))
      (hc : dispatch .privileged [] (Text.words text) table = .done (.command c)) :
      CarriesOut d line c (((Dialect.echo line d).enter .privileged).within [])

/-- The settings of an interface find the one that the console is in. -/
def FindsInterface (d : Device) : Prop :=
  ∃ name, d.context = [⟨.interface, name⟩] ∧ d.interfaces.contains name = true ∧
    (∀ f, editInterface f d = d.editInterface name f) ∧
    ∀ id v, vlanId? id = some v → setAccessVlan id d =
      (noticeVlan v d).editInterface name fun i => i.setVlan (some v)

/-- A name finds the VLAN that the console is in. -/
def FindsVlan (d : Device) : Prop :=
  ∃ v : UInt16, d.context = [⟨.vlan, toString v⟩] ∧ d.vlans.contains v = true ∧
    ∀ name, nameVlan name d = { d with vlans := d.vlans.insert v name }

theorem Coherent.findsInterface (h : Coherent d) (hmode : d.mode = .configInterface) :
    FindsInterface d := by
  have hposition := h.position
  rw [hmode] at hposition
  obtain ⟨name, hcontext, hthere⟩ := hposition.exists_interface
  have hframe : ∀ e : Device, e.context = d.context → e.frameName? .interface = some name :=
    fun e he => frameName?_of_cons (he.trans hcontext)
  have hnotice : ∀ v, (noticeVlan v d).context = d.context := by
    intro v
    unfold noticeVlan
    split <;> rfl
  refine ⟨name, hcontext, hthere, fun f => ?_, fun id v hid => ?_⟩
  · rw [editInterface, hframe d rfl]
  · have hthis : (d.frameName? .interface).isNone = false := by rw [hframe d rfl]; rfl
    simp only [setAccessVlan, hid, hthis, Bool.false_eq_true, if_false]
    rw [editInterface, hframe _ (hnotice v)]

theorem Coherent.findsVlan (h : Coherent d) (hmode : d.mode = .configVlan) : FindsVlan d := by
  have hposition := h.position
  rw [hmode] at hposition
  obtain ⟨v, hcontext, hthere⟩ := hposition.exists_vlan
  have hframe : d.frameName? .vlan = some (toString v) := frameName?_of_cons hcontext
  refine ⟨v, hcontext, hthere, fun name => ?_⟩
  rw [Ios.nameVlan, hframe, Option.bind_some, Text.readUInt16?_toString]

theorem mode_of_setsInterface {c : Command} (h : c.setsInterface = true) {mode : Mode}
    (hc : c.Admitted mode) : mode = .configInterface := by
  cases c with
  | setAddress | clearAddress | setUp | setDescription | setAccessVlan | clearAccessVlan
  | setZone => exact List.mem_singleton.mp (hc _ rfl)
  | _ => cases h

/-- Whatever a line has carried out, a command that changes an object finds it. -/
theorem finds_of_carriesOut (h : Coherent d) {line : String} {c : Command} {e : Device}
    (hc : CarriesOut d line c e) :
    (c.setsInterface = true → FindsInterface e) ∧ (∀ name, c = .nameVlan name → FindsVlan e) := by
  cases hc with
  | entered hv =>
    have hadmitted := admitted_of_done (Dialect.dispatch_of_verdict? hv)
    have hecho : Coherent (Dialect.echo line d) := h.keep (.logged d _)
    refine ⟨fun hsets => hecho.findsInterface (mode_of_setsInterface hsets hadmitted), ?_⟩
    rintro name rfl
    exact hecho.findsVlan (List.mem_singleton.mp (hadmitted _ rfl))
  | carried _ hdone =>
    -- in the privileged mode, where carried lines run, there is no such command
    have hadmitted := admitted_of_done hdone
    refine ⟨fun hsets => ?_, ?_⟩
    · cases mode_of_setsInterface hsets hadmitted
    · rintro name rfl
      cases List.mem_singleton.mp (hadmitted _ rfl)

/-! ## Runs -/

/-- **Modes and objects on IOS.** Start in the user mode, with no object open, nothing staged, and
    valid ids for all VLANs. Then, after any lines and edits,
    * the mode is one of the family's, and the object that is open is the one that belongs to it:
      none in the exec modes and the configuration mode, an interface of the device, a routing
      process, or a VLAN of the device, by the digits of its id;
    * all VLANs have valid ids;
    * whatever a line has carried out, the settings of an interface and the name of a VLAN find the
      object they are for. -/
theorem mode_coherence (d : Device) (hfamily : d.family = .cisco) (hmode : d.mode = .user)
    (hcontext : d.context = []) (hlive : d.candidate = none) (hvlans : ValidVlans d)
    (actions : List (Inventory × Action)) :
    let r := d.run actions
    r.mode ∈ r.family.modes ∧ Position r r.mode r.context ∧ ValidVlans r ∧
    ∀ line c e, CarriesOut r line c e →
      (c.setsInterface = true → FindsInterface e) ∧
      (∀ name, c = .nameVlan name → FindsVlan e) := by
  intro r
  have hstart : Coherent d := ⟨hmode ▸ hcontext ▸ .user, hvlans, hlive⟩
  have hr : Coherent r := coherent_runAll hstart hfamily actions
  have hcisco : r.family = .cisco := (d.family_run actions).trans hfamily
  refine ⟨?_, hr.position, hr.vlans, fun _ _ _ hc => finds_of_carriesOut hr hc⟩
  rw [hcisco]
  exact hr.position.mem_modes

/-- A VLAN is opened from inside an interface, a carried line and an attempt to delete it change
    nothing about that, and its name finds it. -/
theorem mode_coherence_open_vlan :
    let d : Device :=
      { id := "s1", name := "s1", kind := .switch, vendor := .cisco
        vlans := SortedMap.empty.insert 1 "default" }
    let lines : List String :=
      ["enable", "configure terminal", "interface Gi0/1", "switchport access vlan 20", "vlan 20",
        "do disable", "no vlan 20"]
    let r := d.run (lines.map fun text => (SortedMap.empty, .line text))
    r.mode = .configVlan ∧ r.context = [⟨.vlan, "20"⟩] ∧ Position r r.mode r.context ∧
      ValidVlans r ∧ FindsVlan (Dialect.echo "name users" r) := by
  intro d lines r
  have hvlans : ValidVlans d := by
    refine ⟨fun v hv => ?_, fun name i v hi => by cases hi⟩
    rw [SortedMap.contains_insert] at hv
    split at hv
    next heq => exact heq ▸ ⟨by decide, by decide⟩
    next => cases hv
  obtain ⟨_, hposition, hvalid, hfinds⟩ := mode_coherence d rfl rfl rfl rfl hvlans
    (lines.map fun text => (SortedMap.empty, .line text))
  refine ⟨?_, ?_, hposition, hvalid, ?_⟩
  · decide +kernel
  · decide +kernel
  · refine (hfinds "name users" (.nameVlan "users") _ (.entered ?_)).2 "users" rfl
    decide +kernel

end TrainingLab.Ios
