import TrainingLab.Proofs.Dialect.Patterns
import TrainingLab.Proofs.Dialect.Typing
import TrainingLab.Proofs.Grammar.Captures
import TrainingLab.Proofs.Network.Notation
import TrainingLab.Proofs.SortedMap
import TrainingLab.Proofs.Text.Quotes

/-
  What the listings of FortiOS rely on. A listing puts texts between quotes and addresses as they
  are, and escapes nothing. That it can be read back is due to where the texts come from: they are
  words of a line, or words joined by spaces, without quotes at their ends, and an address is only
  taken with a mask that can be read.

  Proved:
  * `fromLine_of_done`: the texts of a command that the table takes come from the words of the line.
  * `listable_run`: no such command makes an interface or a route that cannot be listed.
  * `listable_lines`: neither does a run of lines of any length.
-/

namespace TrainingLab.FortiOs

open Grammar Device

/-! ## Commands from a line -/

/-- The texts of the command are as the words of a line and the placeholders for them leave them. -/
def Command.FromLine : Command → Prop
  | openInterface name => Text.Unbroken name
  | setAddress ip mask =>
    Text.Unbroken ip ∧ ArgumentKind.address.accepts ip = true ∧
      ArgumentKind.mask.accepts mask = true
  | setCidr cidr => Text.Unbroken cidr ∧ ArgumentKind.cidr.accepts cidr = true
  | setAlias text => ∀ t, text = some t → Text.Spaced t.toList
  | setZone zone => ∀ z, zone = some z → Text.Unbroken z
  | setGateway gateway =>
    Text.Unbroken gateway ∧ ArgumentKind.address.accepts gateway = true
  | setDevice name => Text.Unbroken name
  | _ => True

/-- Every rule stands for a command, and its texts come from the line. -/
theorem table_fromLine : ∀ r ∈ table, r.pattern.Regular → ∀ tokens caps, AreWords tokens →
    r.pattern.matches tokens = .full caps →
    ∃ c, r.meaning caps = .command c ∧ c.FromLine := by
  simp only [table, List.forall_mem_cons]
  repeat' apply And.intro
  all_goals try exact List.forall_mem_nil _
  all_goals intro hp tokens caps hwords h
  all_goals refine ⟨_, rfl, ?_⟩
  all_goals try exact trivial
  -- what is left are the rules that FromLine speaks of, in the order of the table
  · exact (unbroken_of_captured hp hwords h "name" .word (by decide)).1
  · have hip := unbroken_of_captured hp hwords h "ip" .address (by decide)
    have hmask := unbroken_of_captured hp hwords h "mask" .mask (by decide)
    exact ⟨hip.1, hip.2, hmask.2⟩
  · exact unbroken_of_captured hp hwords h "cidr" .cidr (by decide)
  · rintro _ ⟨⟩
    exact spaced_of_captured hp hwords h "text" (by decide)
  · rintro _ ⟨⟩
    exact (unbroken_of_captured hp hwords h "zone" .word (by decide)).1
  · rintro _ ⟨⟩
  · rintro _ ⟨⟩
  · exact unbroken_of_captured hp hwords h "gateway" .address (by decide)
  · exact (unbroken_of_captured hp hwords h "name" .word (by decide)).1

/-- What the table makes of words is a command with texts from these. -/
theorem fromLine_of_done {mode : Mode} {context : List Frame} {tokens : List String}
    {m : Request Command} (hwords : AreWords tokens)
    (h : dispatch mode context tokens table = .done m) :
    ∃ c, m = .command c ∧ c.FromLine := by
  obtain ⟨r, caps, hr, hfull, rfl⟩ := dispatch_done_iff.mp h
  have hmem := List.mem_of_find?_eq_some hr
  exact table_fromLine r hmem (table_regular r hmem) tokens caps hwords hfull

/-! ## Interfaces and routes that can be listed -/

/-- A name that is one word between quotes, and comes back from there. -/
structure IsName (s : String) : Prop where
  bare : Text.Bare s
  unbroken : Text.Unbroken s

/-- Nothing in the listing of the interface is lost when it is read. -/
structure ListableInterface (i : Interface) : Prop where
  address : i.isAddressed = true → Text.Unbroken i.ip ∧ i.net?.isSome = true
  zone : ∀ zone, i.zone = some zone → IsName zone ∧ zone ≠ ""
  description : ∀ text, i.description = some text →
    Text.Bare text ∧ Text.Spaced text.toList ∧ text ≠ ""

/-- Nothing in the listing of the route is lost when it is read. -/
structure ListableRoute (r : Route) : Prop where
  destination : ∃ net : Network.Cidr, net.network = net ∧ r.destination = net.toText
  nextHop : Text.Unbroken r.nextHop ∧ ArgumentKind.address.accepts r.nextHop = true
  interface : ∀ name, r.interface = some name → IsName name

/-- The route that a position behind the last one makes. -/
def blankRoute : Route := { destination := "0.0.0.0/0", nextHop := "0.0.0.0" }

/-- All interfaces and routes can be listed, and so can the interface being edited. -/
structure Listable (d : Device) : Prop where
  interfaces : ∀ name i, d.interfaces.find? name = some i → IsName name ∧ ListableInterface i
  routes : ∀ r ∈ d.routes, ListableRoute r
  frames : ∀ f ∈ d.context, f.kind = .interface → IsName f.name

theorem IsName.feed_not_mem {s : String} (h : IsName s) : '\n' ∉ s.toList :=
  h.unbroken.feed_not_mem

theorem isName_unquote {s : String} (h : Text.Unbroken s) : IsName (Text.unquote s) :=
  ⟨Text.bare_unquote s, Text.unbroken_unquote h⟩

theorem exists_of_nonempty? {s : Option String} {text : String}
    (h : nonempty? (s.map Text.unquote) = some text) :
    text ≠ "" ∧ ∃ t, s = some t ∧ text = Text.unquote t := by
  rw [nonempty?, Option.filter_eq_some_iff] at h
  obtain ⟨hsome, hne⟩ := h
  obtain ⟨t, rfl, rfl⟩ := Option.map_eq_some_iff.mp hsome
  exact ⟨bne_iff_ne.mp hne, t, rfl, rfl⟩

namespace ListableInterface

variable {i : Interface}

theorem not_isAddressed_of_empty (h : i.ip = "") : i.isAddressed ≠ true := by
  rw [Interface.isAddressed, Interface.address?, h]
  decide

theorem unconfigured : ListableInterface {} :=
  ⟨fun haddressed => absurd haddressed (not_isAddressed_of_empty rfl), nofun, nofun⟩

theorem setAddress (h : ListableInterface i) {ip mask : String} (hip : Text.Unbroken ip)
    (hmask : (Network.readMask? mask).isSome = true) :
    ListableInterface (i.setAddress ip mask) := by
  refine ⟨fun haddressed => ⟨hip, ?_⟩, h.zone, h.description⟩
  exact Network.isSome_readCidr? haddressed hmask

theorem setCidr (h : ListableInterface i) {cidr : String} (hcidr : Text.Unbroken cidr)
    (haccepts : ArgumentKind.cidr.accepts cidr = true) : ListableInterface (i.setCidr cidr) := by
  rw [ArgumentKind.accepts] at haccepts
  rw [Interface.setCidr]
  cases hsplit : Text.splitFirst? (· == '/') cidr with
  | none =>
    rw [hsplit] at haccepts
    cases haccepts
  | some parts =>
    rw [hsplit, Bool.and_eq_true] at haccepts
    exact h.setAddress (Text.unbroken_of_splitFirst? hcidr hsplit) haccepts.2

theorem clearAddress (h : ListableInterface i) : ListableInterface i.clearAddress :=
  ⟨fun haddressed => absurd haddressed (not_isAddressed_of_empty rfl), h.zone, h.description⟩

theorem setUp (h : ListableInterface i) (up : Bool) : ListableInterface (i.setUp up) :=
  ⟨h.address, h.zone, h.description⟩

theorem setZone (h : ListableInterface i) {zone : Option String}
    (hzone : ∀ z, zone = some z → Text.Unbroken z) :
    ListableInterface (i.setZone (zone.map Text.unquote)) := by
  refine ⟨h.address, fun z hz => ?_, h.description⟩
  obtain ⟨hne, t, ht, rfl⟩ := exists_of_nonempty? hz
  exact ⟨isName_unquote (hzone t ht), hne⟩

theorem setDescription (h : ListableInterface i) {text : Option String}
    (htext : ∀ t, text = some t → Text.Spaced t.toList) :
    ListableInterface (i.setDescription (text.map Text.unquote)) := by
  refine ⟨h.address, h.zone, fun s hs => ?_⟩
  obtain ⟨hne, t, ht, rfl⟩ := exists_of_nonempty? hs
  exact ⟨Text.bare_unquote t, Text.spaced_unquote (htext t ht), hne⟩

end ListableInterface

namespace ListableRoute

variable {r : Route}

theorem blank : ListableRoute blankRoute where
  destination := ⟨{ address := ⟨0, 0, 0, 0⟩, length := 0 }, by decide, by decide⟩
  nextHop := ⟨by decide, by decide⟩
  interface := nofun

theorem setDestination (h : ListableRoute r) {net : Network.Cidr} (hnet : net.network = net) :
    ListableRoute { r with destination := net.toText } :=
  ⟨⟨net, hnet, rfl⟩, h.nextHop, h.interface⟩

theorem setGateway (h : ListableRoute r) {gateway : String}
    (hgateway : Text.Unbroken gateway ∧ ArgumentKind.address.accepts gateway = true) :
    ListableRoute { r with nextHop := gateway } :=
  ⟨h.destination, hgateway, h.interface⟩

theorem setDevice (h : ListableRoute r) {name : String} (hname : Text.Unbroken name) :
    ListableRoute { r with interface := some (Text.unquote name) } := by
  refine ⟨h.destination, h.nextHop, ?_⟩
  rintro _ ⟨⟩
  exact isName_unquote hname

end ListableRoute

/-! ## Steps -/

namespace Listable

variable {d d' : Device}

/-- A step that leaves interfaces and routes alone and opens no interface. -/
theorem of_same (h : Listable d) (hinterfaces : d'.interfaces = d.interfaces)
    (hroutes : d'.routes = d.routes)
    (hframes : ∀ f ∈ d'.context, f.kind = .interface → f ∈ d.context) : Listable d' where
  interfaces := hinterfaces ▸ h.interfaces
  routes := hroutes ▸ h.routes
  frames := fun f hf hkind => h.frames f (hframes f hf hkind) hkind

theorem of_forget (h : Listable d) (hsame : d'.forget = d.forget) : Listable d' :=
  h.of_same (eq_of_forget Device.interfaces (fun _ => rfl) hsame)
    (eq_of_forget Device.routes (fun _ => rfl) hsame)
    fun _ hf _ => eq_of_forget Device.context (fun _ => rfl) hsame ▸ hf

theorem logged (h : Listable d) (text : String) : Listable (d.log text) := h.of_forget rfl

theorem within (h : Listable d) {context : List Frame}
    (hcontext : ∀ f ∈ context, f.kind ≠ .interface) : Listable (d.within context) :=
  h.of_same rfl rfl fun f hf hkind => absurd hkind (hcontext f hf)

theorem push (h : Listable d) {kind : FrameKind} {name : String}
    (hname : kind = .interface → IsName name) : Listable (d.push kind name) where
  interfaces := h.interfaces
  routes := h.routes
  frames := fun f hf hkind => by
    rcases List.mem_cons.mp hf with rfl | hf
    · exact hname hkind
    · exact h.frames f hf hkind

theorem withRoutes (h : Listable d) {routes : List Route}
    (hroutes : ∀ r ∈ routes, ListableRoute r) : Listable { d with routes } :=
  ⟨h.interfaces, hroutes, h.frames⟩

theorem setInterface (h : Listable d) {name : String} (hname : IsName name)
    {f : Interface → Interface} (hf : ∀ i, ListableInterface i → ListableInterface (f i)) :
    Listable (d.editInterface name f) where
  interfaces := fun other i hi => by
    rw [Device.editInterface, SortedMap.find?_insert] at hi
    split at hi
    next heq =>
      cases hi
      refine ⟨heq ▸ hname, hf _ ?_⟩
      cases hold : d.interfaces.find? name with
      | none => exact .unconfigured
      | some old => exact (h.interfaces name old hold).2
    next => exact h.interfaces other i hi
  routes := h.routes
  frames := h.frames

theorem editInterface (h : Listable d) {f : Interface → Interface}
    (hf : ∀ i, ListableInterface i → ListableInterface (f i)) :
    Listable (FortiOs.editInterface f d) := by
  unfold FortiOs.editInterface
  split
  next name hname =>
    obtain ⟨frame, hframe, rfl⟩ := Option.map_eq_some_iff.mp hname
    have hkind : frame.kind = .interface := by simpa using List.find?_some hframe
    exact h.setInterface (h.frames frame (List.mem_of_find?_eq_some hframe) hkind) hf
  next => exact h.logged parseError

theorem editRoute (h : Listable d) {f : Route → Route}
    (hf : ∀ r, ListableRoute r → ListableRoute (f r)) : Listable (FortiOs.editRoute f d) := by
  unfold FortiOs.editRoute
  split
  next n _ =>
    split
    next =>
      refine h.withRoutes fun r hr => ?_
      obtain ⟨k, hk, rfl⟩ := List.mem_iff_getElem.mp hr
      rw [List.getElem_modify]
      split
      · exact hf _ (h.routes _ (List.getElem_mem _))
      · exact h.routes _ (List.getElem_mem _)
    next => exact h.logged parseError
  next => exact h.logged parseError

theorem setDestination (h : Listable d) {destination : Option Network.Cidr}
    (hnet : ∀ net, destination = some net → net.network = net) :
    Listable (setDestination destination d) := by
  cases destination with
  | some net => exact h.editRoute fun r hr => hr.setDestination (hnet net rfl)
  | none => exact h.logged parseError

/-- A setting of a policy. -/
theorem policy (h : Listable d) {f : Device → Device} (hf : Setting .policy f) :
    Listable (f d) := by
  cases hf with
  | rejected _ => exact h.logged _
  | policy _ =>
    unfold editPolicy
    split
    next =>
      split
      next => exact h.of_same rfl rfl fun _ hf _ => hf
      next => exact h.logged parseError
    next => exact h.logged parseError

theorem openPolicy (h : Listable d) (id : String) : Listable (openPolicy id d) := by
  rcases openPolicy_cases id d with hopen | ⟨n, _, hopen⟩ | ⟨n, _, hopen⟩
  · exact hopen ▸ h.logged parseError
  · exact hopen ▸ h.push nofun
  · rw [hopen]
    refine Listable.push ?_ nofun
    exact h.of_same rfl rfl fun _ hf _ => hf

theorem openRoute (h : Listable d) (position : String) : Listable (openRoute position d) := by
  unfold FortiOs.openRoute
  split
  next => exact h.logged parseError
  next =>
    split
    next =>
      refine (h.withRoutes ?_).push nofun
      exact List.forall_mem_append.mpr ⟨h.routes, List.forall_mem_singleton.mpr .blank⟩
    next => exact h.push nofun

theorem deleteInterface (h : Listable d) (name : String) : Listable (deleteInterface name d) := by
  unfold FortiOs.deleteInterface
  split
  next =>
    refine ⟨fun other i hi => h.interfaces other i ?_, h.routes, h.frames⟩
    rw [SortedMap.find?_erase] at hi
    split at hi
    next => cases hi
    next => exact hi
  next => exact h.logged notFound

theorem deletePolicy (h : Listable d) (id : String) : Listable (deletePolicy id d) := by
  unfold FortiOs.deletePolicy
  dsimp only
  split
  next => exact h.logged notFound
  next => exact h.of_same rfl rfl fun _ hf _ => hf

theorem deleteRoute (h : Listable d) (position : String) : Listable (deleteRoute position d) := by
  unfold FortiOs.deleteRoute
  split
  next =>
    split
    next => exact h.withRoutes fun r hr => h.routes r (List.mem_of_mem_eraseIdx hr)
    next => exact h.logged notFound
  next => exact h.logged notFound

theorem next (h : Listable d) (devices : Inventory) : Listable (Command.next.run devices d) := by
  rw [Command.run]
  split
  next => exact h.of_same rfl rfl fun _ hf _ => List.mem_of_mem_tail hf
  next => exact h

theorem setStatus (h : Listable d) (status : String) : Listable (setStatus status d) := by
  unfold FortiOs.setStatus
  split
  next => exact h.editInterface fun _ hi => hi.setUp true
  next => exact h.editInterface fun _ hi => hi.setUp false
  next => exact h.logged parseError

end Listable

/-! ## Commands -/

variable {d : Device}

/-- No command with texts from a line makes anything that cannot be listed. -/
theorem listable_run {c : Command} (h : Listable d) (hc : c.FromLine) (devices : Inventory) :
    Listable (c.run devices d) := by
  cases c with
  | accept => exact h
  | openSection => exact h.within (List.forall_mem_singleton.mpr nofun)
  | leave => exact h.within (List.forall_mem_nil _)
  | next => exact h.next devices
  | openInterface name =>
    exact (h.setInterface (isName_unquote hc) fun _ hi => hi).push fun _ => isName_unquote hc
  | openPolicy id => exact h.openPolicy id
  | openRoute position => exact h.openRoute position
  | deleteInterface name => exact h.deleteInterface _
  | deletePolicy id => exact h.deletePolicy id
  | deleteRoute position => exact h.deleteRoute position
  | setAddress ip mask =>
    obtain ⟨hip, _, hmask⟩ := hc
    rw [ArgumentKind.accepts, Bool.and_eq_true] at hmask
    exact h.editInterface fun _ hi => hi.setAddress hip hmask.2
  | setCidr cidr => exact h.editInterface fun _ hi => hi.setCidr hc.1 hc.2
  | clearAddress => exact h.editInterface fun _ hi => hi.clearAddress
  | setStatus status => exact h.setStatus status
  | setAlias text => exact h.editInterface fun _ hi => hi.setDescription hc
  | setZone zone => exact h.editInterface fun _ hi => hi.setZone hc
  | setDestination ip mask =>
    exact h.setDestination fun _ hnet => Network.network_of_readNetwork? hnet
  | setDestinationPrefix cidr =>
    exact h.setDestination fun _ hnet => Network.network_of_readPrefix? hnet
  | setGateway gateway => exact h.editRoute fun _ hr => hr.setGateway hc
  | setDevice name => exact h.editRoute fun _ hr => hr.setDevice hc
  | setName | setFromZone | setToZone | setSource | setDestinationAddress | setAction
  | setService =>
    exact h.policy (setting_run rfl devices)
  | _ => exact h.of_forget (forget_run_of_inspects rfl devices d)

/-! ## Lines -/

/-- Whatever is entered, everything can be listed. -/
theorem listable_lines (h : Listable d) (hfamily : d.family = .fortinet)
    (lines : List (Inventory × String)) :
    Listable (d.run (lines.map fun l => (l.1, .line l.2))) := by
  refine Dialect.kept_lines (P := Listable) ?_ hfamily h lines
  intro d hfamily h devices line
  obtain ⟨help, hinterpret⟩ := speaks hfamily
  rw [hinterpret]
  refine Dialect.kept_interpret (P := Listable) (fun text h => h.logged text) ?_ h help
  intro d m h hdone
  obtain ⟨c, rfl, hc⟩ := fromLine_of_done (areWords_words line) hdone
  exact listable_run h hc devices

end TrainingLab.FortiOs
