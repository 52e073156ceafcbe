import TrainingLab.Proofs.Dialect.Inspection
import TrainingLab.Proofs.Dialect.Typing
import TrainingLab.Proofs.SortedMap

/-
  Standards for the texts of a configuration. A standard says what hostnames, names and settings of
  interfaces, names of VLANs and routes are like; what IOS puts there by itself meets it. A command
  whose texts the standard allows makes no device that misses it, so a device that meets it does so
  after any run of lines with such commands.
-/

namespace TrainingLab.Ios

open Grammar Device

/-- What the texts of a configuration are like. -/
structure Standard where
  name : String → Prop
  /-- The name of an interface, or of one that is about to be made. -/
  interface : String → Prop
  settings : Interface → Prop
  vlan : String → Prop
  routes : List Route → Prop
  unconfigured : settings {}
  clearAddress : ∀ {i}, settings i → settings i.clearAddress
  setUp : ∀ {i}, settings i → ∀ up, settings (i.setUp up)
  setVlan : ∀ {i}, settings i → ∀ vlan, settings (i.setVlan vlan)
  defaultVlan : ∀ v, vlan (defaultVlanName v)
  filter : ∀ {rs}, routes rs → ∀ p : Route → Bool, routes (rs.filter p)

namespace Standard

/-- The configuration meets the standard, and the interface being edited does too. -/
structure Meets (s : Standard) (d : Device) : Prop where
  name : s.name d.name
  interfaces : ∀ name i, d.interfaces.find? name = some i → s.interface name ∧ s.settings i
  vlans : ∀ v name, d.vlans.find? v = some name → s.vlan name
  routes : s.routes d.routes
  frames : ∀ f ∈ d.context, f.kind = .interface → s.interface f.name

/-- What the command puts into a configuration meets the standard. -/
def Allows (s : Standard) : Command → Prop
  | .setHostname name => s.name name
  | .enterInterface name => s.interface name
  | .addRoute ip mask nextHop => ∀ net, Network.readNetwork? ip mask = some net →
      ∀ {rs}, s.routes rs → s.routes (Route.addTo rs { destination := net.toText, nextHop })
  | .setAddress ip mask => ∀ {i}, s.settings i → s.settings (i.setAddress ip mask)
  | .setDescription text => ∀ {i}, s.settings i → s.settings (i.setDescription text)
  | .setZone zone => ∀ {i}, s.settings i → s.settings (i.setZone zone)
  | .nameVlan name => s.vlan name
  | _ => True

variable {s : Standard} {d d' : Device}

namespace Meets

/-- The configuration counts, and the console for the interface being edited. -/
theorem of_config (h : s.Meets d) (hconfig : d'.config = d.config)
    (hframes : ∀ f ∈ d'.context, f.kind = .interface → s.interface f.name) : s.Meets d' := by
  have hname : d'.name = d.name := eq_of_config Device.name (fun _ => rfl) hconfig
  have hinterfaces : d'.interfaces = d.interfaces :=
    eq_of_config Device.interfaces (fun _ => rfl) hconfig
  have hvlans : d'.vlans = d.vlans := eq_of_config Device.vlans (fun _ => rfl) hconfig
  have hroutes : d'.routes = d.routes := eq_of_config Device.routes (fun _ => rfl) hconfig
  exact ⟨hname ▸ h.name, hinterfaces ▸ h.interfaces, hvlans ▸ h.vlans, hroutes ▸ h.routes, hframes⟩

theorem of_forget (h : s.Meets d) (hsame : d'.forget = d.forget) : s.Meets d' := by
  refine h.of_config (config_eq_of_forget hsame) ?_
  have hcontext : d'.context = d.context := eq_of_forget Device.context (fun _ => rfl) hsame
  exact hcontext ▸ h.frames

theorem logged (h : s.Meets d) (text : String) : s.Meets (d.log text) := h.of_forget rfl

/-- Above the objects, another mode is entered. -/
theorem atTop (h : s.Meets d) (mode : Mode) : s.Meets ((d.within []).enter mode) :=
  h.of_config rfl (List.forall_mem_nil _)

theorem entered (h : s.Meets d) (mode : Mode) : s.Meets (d.enter mode) := h.of_config rfl h.frames

theorem opened (h : s.Meets d) (mode : Mode) {kind : FrameKind} {name : String}
    (hname : kind = .interface → s.interface name) : s.Meets (openObject mode kind name d) :=
  h.of_config rfl (List.forall_mem_singleton.mpr hname)

/-- An object that is no interface may have any name. -/
theorem openedOther (h : s.Meets d) (mode : Mode) {kind : FrameKind} (hkind : kind ≠ .interface)
    (name : String) : s.Meets (openObject mode kind name d) :=
  h.opened mode fun heq => absurd heq hkind

theorem exitMode (h : s.Meets d) : s.Meets (exitMode d) := by
  unfold Ios.exitMode
  split
  next => exact h.atTop .config
  next => exact h.atTop .config
  next => exact h.atTop .config
  next => exact h.entered .privileged
  next => exact h.entered .user
  next => exact h

theorem setInterface (h : s.Meets d) {name : String} (hname : s.interface name)
    {f : Interface → Interface} (hf : ∀ {i}, s.settings i → s.settings (f i)) :
    s.Meets (d.editInterface name f) where
  name := h.name
  interfaces := fun other i hi => by
    rw [Device.editInterface, SortedMap.find?_insert] at hi
    split at hi
    next heq =>
      cases hi
      refine ⟨heq ▸ hname, hf ?_⟩
      cases hold : d.interfaces.find? name with
      | none => exact s.unconfigured
      | some old => exact (h.interfaces name old hold).2
    next => exact h.interfaces other i hi
  vlans := h.vlans
  routes := h.routes
  frames := h.frames

theorem editInterface (h : s.Meets d) {f : Interface → Interface}
    (hf : ∀ {i}, s.settings i → s.settings (f i)) : s.Meets (Ios.editInterface f d) := by
  unfold Ios.editInterface
  split
  next name hname =>
    obtain ⟨frame, hframe, rfl⟩ := Option.map_eq_some_iff.mp hname
    have hkind : frame.kind = .interface := by simpa using List.find?_some hframe
    exact h.setInterface (h.frames frame (List.mem_of_find?_eq_some hframe) hkind) hf
  next => exact h.logged incompleteCommand

theorem insertVlan (h : s.Meets d) (v : UInt16) {name : String} (hname : s.vlan name) :
    s.Meets { d with vlans := d.vlans.insert v name } where
  name := h.name
  interfaces := h.interfaces
  vlans := fun w other hw => by
    rw [SortedMap.find?_insert] at hw
    split at hw
    next =>
      cases hw
      exact hname
    next => exact h.vlans w other hw
  routes := h.routes
  frames := h.frames

theorem eraseVlan (h : s.Meets d) (v : UInt16) :
    s.Meets { d with vlans := d.vlans.erase v } where
  name := h.name
  interfaces := h.interfaces
  vlans := fun w other hw => by
    rw [SortedMap.find?_erase] at hw
    split at hw
    next => cases hw
    next => exact h.vlans w other hw
  routes := h.routes
  frames := h.frames

theorem enterVlan (h : s.Meets d) (id : String) : s.Meets (enterVlan id d) := by
  unfold Ios.enterVlan
  cases vlanId? id with
  | some v =>
    dsimp only
    split
    next => exact h.openedOther .configVlan (by decide) _
    next => exact (h.insertVlan v (s.defaultVlan v)).openedOther .configVlan (by decide) _
  | none => exact h.logged invalidInput

theorem setAccessVlan (h : s.Meets d) (id : String) : s.Meets (setAccessVlan id d) := by
  have hnotice : ∀ v, s.Meets (noticeVlan v d) := by
    intro v
    unfold noticeVlan
    split
    next => exact h
    next => exact (h.logged _).insertVlan v (s.defaultVlan v)
  unfold Ios.setAccessVlan
  split
  next => exact h.logged invalidInput
  next v _ =>
    split
    next => exact h.logged incompleteCommand
    next => exact (hnotice v).editInterface fun hi => s.setVlan hi (some v)

theorem nameVlan (h : s.Meets d) {name : String} (hname : s.vlan name) :
    s.Meets (nameVlan name d) := by
  unfold Ios.nameVlan
  split
  next v _ => exact h.insertVlan v hname
  next => exact h.logged incompleteCommand

theorem withRoutes (h : s.Meets d) {routes : List Route} (hroutes : s.routes routes) :
    s.Meets { d with routes } :=
  ⟨h.name, h.interfaces, h.vlans, hroutes, h.frames⟩

theorem addRoute (h : s.Meets d) {ip mask nextHop : String}
    (hc : s.Allows (.addRoute ip mask nextHop)) : s.Meets (addRoute ip mask nextHop d) := by
  unfold Ios.addRoute
  split
  next net hnet => exact h.withRoutes (hc net hnet h.routes)
  next => exact h.logged invalidInput

theorem removeRoute (h : s.Meets d) (ip mask : String) (nextHop : Option String) :
    s.Meets (removeRoute ip mask nextHop d) := by
  unfold Ios.removeRoute
  split
  next => exact h.withRoutes (s.filter h.routes _)
  next => exact h.logged invalidInput

/-- A command that the standard allows keeps it. -/
theorem run (h : s.Meets d) {c : Command} (hc : s.Allows c) (devices : Inventory) :
    s.Meets (c.run devices d) := by
  cases c with
  | accept => exact h
  | exit => exact h.exitMode
  | leave =>
    rw [Command.run]
    split
    next => exact h
    next => exact h.atTop .privileged
  | enable => exact h.entered .privileged
  | disable => exact h.entered .user
  | configure => exact (h.logged _).entered .config
  | setHostname name => exact ⟨hc, h.interfaces, h.vlans, h.routes, h.frames⟩
  | enterInterface name => exact (h.setInterface hc id).opened .configInterface fun _ => hc
  | enterRouter process => exact h.openedOther .configRouter (by decide) process
  | enterVlan id => exact h.enterVlan id
  | addRoute ip mask nextHop => exact h.addRoute hc
  | removeRoute ip mask nextHop => exact h.removeRoute ip mask nextHop
  | removeVlan id =>
    rw [Command.run]
    cases Text.readUInt16? id with
    | some v => exact h.eraseVlan v
    | none => exact h
  | setAddress ip mask => exact h.editInterface hc
  | clearAddress => exact h.editInterface s.clearAddress
  | setUp up => exact h.editInterface fun hi => s.setUp hi up
  | setDescription text => exact h.editInterface hc
  | setAccessVlan id => exact h.setAccessVlan id
  | clearAccessVlan => exact h.editInterface fun hi => s.setVlan hi none
  | setZone zone => exact h.editInterface hc
  | nameVlan name => exact h.nameVlan hc
  | _ => exact h.of_forget (forget_run_of_inspects rfl devices d)

/-- A line keeps the standard if it allows what the table makes of the line. -/
theorem interpret (h : s.Meets d) (hfamily : d.family = .cisco) {line : String}
    (hline : ∀ {mode context c},
      dispatch mode context (Text.words line) table = .done (.command c) → s.Allows c)
    (devices : Inventory) : s.Meets (d.interpret devices line) := by
  obtain ⟨help, hinterpret⟩ := speaks hfamily
  rw [hinterpret]
  refine Dialect.kept_interpret (fun text h => h.logged text) ?_ h help
  intro d m h hdone
  cases m with
  | command c => exact h.run (hline hdone) devices
  | carried text => exact h.of_forget (carriesSafely.forget_act hdone devices d)

end Meets

end Standard

end TrainingLab.Ios
