import TrainingLab.Proofs.Device.Addressing
import TrainingLab.Proofs.Dialect.FortiOs.Listable
import TrainingLab.Proofs.Dialect.Ios.Listable
import TrainingLab.Proofs.Dialect.Junos.Commit

/-
  Addresses that the consoles take. The placeholders of a table let only addresses, masks and
  prefixes through that can be read, in whatever notation; what is made of them keeps interfaces and
  routes usable. On Junos a route can be opened and added to later, so its destination waits on the
  stack of edited objects in between; for the others the stack does not matter.

  Proved:
  * `Junos.addressed_of_done`, `PanOs.addressed_of_done`: addresses of a command come from the
    placeholders for them.
  * `Ios.usable_run`, `FortiOs.usable_run`, `PanOs.usable_run`, `Junos.sound_run`: one command.
  * `addresses_usable`: along any run of lines.
-/

namespace TrainingLab

open Grammar Device

/-! ## IOS -/

namespace Ios

variable {d : Device}

theorem usable_editInterface (h : Usable d) {f : Interface → Interface}
    (hf : Interface.KeepsUsable f) : Usable (editInterface f d) := by
  unfold editInterface
  split
  next name _ => exact h.editInterface name hf
  next => exact h.log incompleteCommand

theorem usable_addRoute (h : Usable d) (ip mask : String) {nextHop : String}
    (hnext : (Network.Address.ofText? nextHop).isSome = true) :
    Usable (addRoute ip mask nextHop d) := by
  unfold addRoute
  split
  next net hnet =>
    have hadded : Route.Usable { destination := net.toText, nextHop } :=
      ⟨Network.isCanonical_toText (Network.network_of_readNetwork? hnet), hnext⟩
    exact h.withRoutes (h.routes.addTo hadded)
  next => exact h.log invalidInput

theorem usable_removeRoute (h : Usable d) (ip mask : String) (nextHop : Option String) :
    Usable (removeRoute ip mask nextHop d) := by
  unfold removeRoute
  split
  next => exact h.withRoutes (h.routes.filter _)
  next => exact h.log invalidInput

theorem usable_setAccessVlan (h : Usable d) (id : String) : Usable (setAccessVlan id d) := by
  have hnotice : ∀ v, Usable (noticeVlan v d) := by
    intro v
    unfold noticeVlan
    split
    next => exact h
    next => exact h.of_same rfl rfl rfl
  unfold setAccessVlan
  split
  next => exact h.log invalidInput
  next v _ =>
    split
    next => exact h.log incompleteCommand
    next => exact usable_editInterface (hnotice v) (Interface.keepsUsable_setVlan (some v))

/-- No command with texts from a line leaves an address that cannot be used. -/
theorem usable_run {c : Command} (hc : c.FromLine) (h : Usable d) (devices : Inventory) :
    Usable (c.run devices d) := by
  cases c with
  | accept => exact h
  | enable | disable | configure | setHostname | enterRouter => exact h.of_same rfl rfl rfl
  | exit =>
    rw [Command.run, exitMode]
    split <;> exact h.of_same rfl rfl rfl
  | leave =>
    rw [Command.run]
    split <;> exact h.of_same rfl rfl rfl
  | enterVlan id =>
    rw [Command.run, enterVlan]
    split
    next => exact h.of_same rfl rfl rfl
    next => exact h.log invalidInput
  | removeVlan id =>
    rw [Command.run]
    split <;> exact h.of_same rfl rfl rfl
  | nameVlan name =>
    rw [Command.run, nameVlan]
    split
    next => exact h.of_same rfl rfl rfl
    next => exact h.log incompleteCommand
  | enterInterface name =>
    have hopened : Usable (d.editInterface name id) := h.editInterface name Interface.keepsUsable_id
    exact hopened.of_same rfl rfl rfl
  | addRoute ip mask nextHop =>
    obtain ⟨a, rfl⟩ := hc
    exact usable_addRoute h ip mask (accepts_address a)
  | removeRoute ip mask nextHop => exact usable_removeRoute h ip mask nextHop
  | setAddress ip mask =>
    obtain ⟨net, rfl, rfl⟩ := hc
    have hmask : (Network.readMask? net.mask.toText).isSome = true := by
      rw [Network.Cidr.mask, (Network.readMask?_maskOf net.length_le).1]
      rfl
    exact usable_editInterface h
      fun i _ => Interface.usable_setAddress (accepts_address net.address) hmask i
  | clearAddress => exact usable_editInterface h fun i _ => i.usable_clearAddress
  | setUp up => exact usable_editInterface h (Interface.keepsUsable_setUp up)
  | setDescription text => exact usable_editInterface h (Interface.keepsUsable_setDescription text)
  | setAccessVlan id => exact usable_setAccessVlan h id
  | clearAccessVlan => exact usable_editInterface h (Interface.keepsUsable_setVlan none)
  | setZone zone => exact usable_editInterface h (Interface.keepsUsable_setZone zone)
  | _ => exact h.of_forget (forget_run_of_inspects rfl devices d)

end Ios

/-! ## FortiOS -/

namespace FortiOs

variable {d : Device}

theorem usable_editInterface (h : Usable d) {f : Interface → Interface}
    (hf : Interface.KeepsUsable f) : Usable (editInterface f d) := by
  unfold editInterface
  split
  next name _ => exact h.editInterface name hf
  next => exact h.log parseError

theorem usable_editRoute (h : Usable d) {f : Route → Route}
    (hf : ∀ r : Route, r.Usable → (f r).Usable) : Usable (editRoute f d) := by
  unfold editRoute
  split
  next n _ =>
    split
    next =>
      refine h.withRoutes fun r hr => ?_
      obtain ⟨k, hk, rfl⟩ := List.mem_iff_getElem.mp hr
      rw [List.getElem_modify]
      split
      · exact hf _ (h.routes _ (List.getElem_mem _))
      · exact h.routes _ (List.getElem_mem _)
    next => exact h.log parseError
  next => exact h.log parseError

theorem usable_setDestination (h : Usable d) {destination : Option Network.Cidr}
    (hnet : ∀ net, destination = some net → net.network = net) :
    Usable (setDestination destination d) := by
  cases destination with
  | none => exact h.log parseError
  | some net =>
    have hcanonical := Network.isCanonical_toText (hnet net rfl)
    exact usable_editRoute h fun _ hr => ⟨hcanonical, hr.nextHop⟩

theorem usable_openRoute (h : Usable d) (position : String) : Usable (openRoute position d) := by
  unfold openRoute
  split
  next => exact h.log parseError
  next =>
    split
    next =>
      have hblank : Route.Usable { destination := "0.0.0.0/0", nextHop := "0.0.0.0" } :=
        ⟨⟨⟨⟨0, 0, 0, 0⟩, 0, by decide⟩, by decide +kernel, by decide⟩, by decide⟩
      have hroutes := List.forall_mem_append.mpr ⟨h.routes, List.forall_mem_singleton.mpr hblank⟩
      exact (h.withRoutes hroutes).of_same rfl rfl rfl
    next => exact h.of_same rfl rfl rfl

theorem usable_deleteRoute (h : Usable d) (position : String) :
    Usable (deleteRoute position d) := by
  unfold deleteRoute
  split
  next =>
    split
    next => exact h.withRoutes fun r hr => h.routes r (List.mem_of_mem_eraseIdx hr)
    next => exact h.log notFound
  next => exact h.log notFound

theorem usable_openPolicy (h : Usable d) (id : String) : Usable (openPolicy id d) := by
  rcases openPolicy_cases id d with hopen | ⟨n, _, hopen⟩ | ⟨n, _, hopen⟩
  · exact hopen ▸ h.log parseError
  · exact hopen ▸ h.of_same rfl rfl rfl
  · exact hopen ▸ h.of_same rfl rfl rfl

/-- A setting of a policy has nothing to do with addresses. -/
theorem usable_setPolicy (h : Usable d) {f : Device → Device} (hf : Setting .policy f) :
    Usable (f d) := by
  cases hf with
  | rejected _ => exact h.log _
  | policy _ =>
    unfold editPolicy
    split
    next =>
      split
      next => exact h.of_same rfl rfl rfl
      next => exact h.log parseError
    next => exact h.log parseError

theorem usable_setStatus (h : Usable d) (status : String) : Usable (setStatus status d) := by
  unfold setStatus
  split
  next => exact usable_editInterface h (Interface.keepsUsable_setUp true)
  next => exact usable_editInterface h (Interface.keepsUsable_setUp false)
  next => exact h.log parseError

/-- No command with texts from a line leaves an address that cannot be used. -/
theorem usable_run {c : Command} (hc : c.FromLine) (h : Usable d) (devices : Inventory) :
    Usable (c.run devices d) := by
  cases c with
  | accept => exact h
  | openSection | leave => exact h.of_same rfl rfl rfl
  | next =>
    rw [Command.run]
    split <;> exact h.of_same rfl rfl rfl
  | openInterface name =>
    have hopened := h.editInterface (Text.unquote name) Interface.keepsUsable_id
    exact hopened.of_same rfl rfl rfl
  | deleteInterface name =>
    rw [Command.run, deleteInterface]
    split
    next => exact h.eraseInterface _
    next => exact h.log notFound
  | openPolicy id => exact usable_openPolicy h id
  | deletePolicy id =>
    rw [Command.run, deletePolicy]
    split <;> exact h.of_same rfl rfl rfl
  | openRoute position => exact usable_openRoute h position
  | deleteRoute position => exact usable_deleteRoute h position
  | setAddress ip mask =>
    obtain ⟨_, hip, hmask⟩ := hc
    rw [ArgumentKind.accepts, Bool.and_eq_true] at hmask
    exact usable_editInterface h fun i _ => Interface.usable_setAddress hip hmask.2 i
  | setCidr cidr => exact usable_editInterface h fun i _ => Interface.usable_setCidr hc.2 i
  | clearAddress => exact usable_editInterface h fun i _ => i.usable_clearAddress
  | setStatus status => exact usable_setStatus h status
  | setAlias text => exact usable_editInterface h (Interface.keepsUsable_setDescription _)
  | setZone zone => exact usable_editInterface h (Interface.keepsUsable_setZone _)
  | setDestination ip mask =>
    exact usable_setDestination h fun _ hnet => Network.network_of_readNetwork? hnet
  | setDestinationPrefix cidr =>
    exact usable_setDestination h fun _ hnet => Network.network_of_readPrefix? hnet
  | setGateway gateway => exact usable_editRoute h fun _ hr => ⟨hr.destination, hc.2⟩
  | setDevice name => exact usable_editRoute h fun _ hr => ⟨hr.destination, hr.nextHop⟩
  | setName | setFromZone | setToZone | setSource | setDestinationAddress | setAction
  | setService => exact usable_setPolicy h (setting_run rfl devices)
  | _ => exact h.of_forget (forget_run_of_inspects rfl devices d)

end FortiOs

/-! ## PAN-OS -/

namespace PanOs

variable {d : Device}

/-- The addresses of the command are such as the placeholders for them take. -/
def Command.Addressed : Command → Prop
  | setAddress _ cidr => ArgumentKind.cidr.accepts cidr = true
  | addRoute destination nextHop =>
    ArgumentKind.cidr.accepts destination = true ∧ ArgumentKind.address.accepts nextHop = true
  | _ => True

theorem table_addressed : ∀ r ∈ table, r.pattern.Regular → ∀ tokens caps,
    r.pattern.matches tokens = .full caps →
    (∃ line, r.meaning caps = .carried line) ∨
      ∃ c, r.meaning caps = .command c ∧ c.Addressed := by
  simp only [table, String.reduceAppend, List.forall_mem_cons]
  repeat' apply And.intro
  all_goals try exact List.forall_mem_nil _
  all_goals intro hp tokens caps h
  all_goals first
    | exact Or.inl ⟨_, rfl⟩
    | refine Or.inr ⟨_, rfl, ?_⟩
  all_goals try exact trivial
  -- what is left are the rules with addresses, in the order of the table
  · exact accepts_of_captured hp h "cidr" .cidr (by decide +kernel)
  · exact ⟨accepts_of_captured hp h "cidr" .cidr (by decide +kernel),
      accepts_of_captured hp h "next-hop" .address (by decide +kernel)⟩

theorem addressed_of_done {mode : Mode} {context : List Frame} {tokens : List String}
    {c : Command} (h : dispatch mode context tokens table = .done (.command c)) :
    c.Addressed :=
  Dialect.command_of_done
    (fun r hr caps hfull => table_addressed r hr (table_regular r hr) tokens caps hfull) h

/-- No command with addresses from a line leaves one that cannot be used. -/
theorem usable_run {c : Command} (hc : c.Addressed) (h : Usable d) (devices : Inventory) :
    Usable (c.run devices d) := by
  cases c with
  | accept => exact h
  | configure | exit | setHostname => exact h.of_same rfl rfl rfl
  | setAddress interface cidr =>
    have hset := h.editInterface interface fun i _ => Interface.usable_setCidr hc i
    exact hset.log "[OK]"
  | setZone interface zone => exact h.editInterface interface (Interface.keepsUsable_setZone _)
  | addRoute destination nextHop =>
    obtain ⟨hdestination, hnext⟩ := hc
    have hcanonical := Network.isCanonical_canonicalPrefix
      (Network.isSome_readPrefix?_of_accepts hdestination)
    exact h.withRoutes (h.routes.addTo ⟨hcanonical, hnext⟩)
  | setRule name field value =>
    rw [Command.run, setRule]
    split
    next => exact h.log invalidSyntax
    next =>
      split
      next => exact h.of_same rfl rfl rfl
      next => split <;> exact h.of_same rfl rfl rfl
  | deleteRule name =>
    rw [Command.run, deleteRule]
    split <;> exact h.of_same rfl rfl rfl
  | _ => exact h.of_forget (forget_run_of_inspects rfl devices d)

end PanOs

/-! ## Junos -/

namespace Junos

variable {d : Device}

/-- The addresses of the command are such as the placeholders for them take, and a route is opened
    by its network. -/
def Command.Addressed : Command → Prop
  | setAddress _ _ cidr => ArgumentKind.cidr.accepts cidr = true
  | editObject kind name => kind = .staticRoute → Network.IsCanonical name
  | addRoute destination nextHop =>
    ArgumentKind.cidr.accepts destination = true ∧ ArgumentKind.address.accepts nextHop = true
  | addEditedRoute nextHop => ArgumentKind.address.accepts nextHop = true
  | _ => True

theorem table_addressed : ∀ r ∈ table, r.pattern.Regular → ∀ tokens caps,
    r.pattern.matches tokens = .full caps →
    (∃ line, r.meaning caps = .carried line) ∨
      ∃ c, r.meaning caps = .command c ∧ c.Addressed := by
  simp only [table, List.forall_mem_cons]
  repeat' apply And.intro
  all_goals try exact List.forall_mem_nil _
  all_goals intro hp tokens caps h
  all_goals first
    | exact Or.inl ⟨_, rfl⟩
    | refine Or.inr ⟨_, rfl, ?_⟩
  all_goals try exact trivial
  -- what is left are the objects that are opened and the rules with addresses, in order
  · exact fun hkind => FrameKind.noConfusion hkind
  · intro _
    have hcidr := accepts_of_captured hp h "cidr" .cidr (by decide +kernel)
    exact Network.isCanonical_canonicalPrefix (Network.isSome_readPrefix?_of_accepts hcidr)
  · exact fun hkind => FrameKind.noConfusion hkind
  · exact fun hkind => FrameKind.noConfusion hkind
  · exact fun hkind => FrameKind.noConfusion hkind
  · exact accepts_of_captured hp h "cidr" .cidr (by decide +kernel)
  · exact ⟨accepts_of_captured hp h "cidr" .cidr (by decide +kernel),
      accepts_of_captured hp h "next-hop" .address (by decide +kernel)⟩
  · exact accepts_of_captured hp h "cidr" .cidr (by decide +kernel)
  · exact accepts_of_captured hp h "next-hop" .address (by decide +kernel)

theorem addressed_of_done {mode : Mode} {context : List Frame} {tokens : List String}
    {c : Command} (h : dispatch mode context tokens table = .done (.command c)) :
    c.Addressed :=
  Dialect.command_of_done
    (fun r hr caps hfull => table_addressed r hr (table_regular r hr) tokens caps hfull) h

/-- Addresses can be used, and the routes being edited are called by their networks. -/
structure Sound (d : Device) : Prop where
  usable : Usable d
  frames : ∀ f ∈ d.context, f.kind = .staticRoute → Network.IsCanonical f.name

namespace Sound

variable {d' : Device}

theorem of_same (h : Sound d) (hconfig : d'.config = d.config) (hcontext : d'.context = d.context) :
    Sound d' :=
  ⟨h.usable.of_config hconfig, hcontext ▸ h.frames⟩

theorem of_forget (h : Sound d) (hsame : d'.forget = d.forget) : Sound d' :=
  h.of_same (config_eq_of_forget hsame) (eq_of_forget Device.context (fun _ => rfl) hsame)

theorem log (h : Sound d) (text : String) : Sound (d.log text) := h.of_forget rfl

theorem stage (h : Sound d) {c : Change} (hc : c.KeepsUsable) : Sound (d.stage c) := by
  refine ⟨h.usable.stage hc, ?_⟩
  have hcontext : (d.stage c).context = d.context := by cases c <;> rfl
  rw [hcontext]
  exact h.frames

theorem pop (h : Sound d) : Sound d.pop :=
  ⟨h.usable.of_config rfl, fun f hf => h.frames f (List.mem_of_mem_tail hf)⟩

theorem push (h : Sound d) {kind : FrameKind} {name : String}
    (hname : kind = .staticRoute → Network.IsCanonical name) : Sound (d.push kind name) :=
  ⟨h.usable.of_config rfl, List.forall_mem_cons.mpr ⟨hname, h.frames⟩⟩

theorem atTop (h : Sound d) : Sound (d.within []) :=
  ⟨h.usable.of_config rfl, List.forall_mem_nil _⟩

theorem leave (h : Sound d) : Sound (leave d) := by
  refine ⟨?_, List.forall_mem_nil _⟩
  by_cases hpending : d.hasPendingChanges = true
  · refine h.usable.discard.of_config ?_
    rw [config_leave, if_pos hpending]
  · refine h.usable.of_config ?_
    rw [config_leave, if_neg hpending]

theorem commit (h : Sound d) : Sound (commit d) := by
  have hcontext : (Junos.commit d).context = d.context := by
    rw [Junos.commit, Device.commit_eq]
    rfl
  refine ⟨h.usable.commit.log "commit complete", ?_⟩
  rw [hcontext]
  exact h.frames

end Sound

/-- A route to what reads as a network, canonical or not. -/
theorem keepsUsable_routeChange {destination nextHop : String}
    (hread : (Network.readPrefix? destination).isSome = true)
    (hnext : (Network.Address.ofText? nextHop).isSome = true) :
    (routeChange destination nextHop).KeepsUsable := by
  have hadded : Route.Usable { destination := Network.canonicalPrefix destination, nextHop } :=
    ⟨Network.isCanonical_canonicalPrefix hread, hnext⟩
  exact fun _ hroutes => hroutes.addTo hadded

/-- The name of the route being edited reads as a network. -/
theorem isSome_readPrefix?_of_edited (h : Sound d) {destination : String}
    (hframe : d.frameName? .staticRoute = some destination) :
    (Network.readPrefix? destination).isSome = true := by
  obtain ⟨f, hf, rfl⟩ := Option.map_eq_some_iff.mp hframe
  have hkind : f.kind = .staticRoute := by simpa using List.find?_some hf
  obtain ⟨net, hread, _⟩ := h.frames f (List.mem_of_find?_eq_some hf) hkind
  rw [hread]
  rfl

/-- What a statement with addresses from a line stages keeps them usable. -/
theorem keepsUsable_of_change? {c : Command} (hc : c.Addressed) (h : Sound d) {change : Change}
    (hchange : c.change? d = some change) : change.KeepsUsable := by
  cases c with
  | setAddress target unit cidr =>
    obtain ⟨name, _, rfl⟩ := Option.map_eq_some_iff.mp hchange
    exact fun i _ => Interface.usable_setCidr hc i
  | clearAddress target unit =>
    obtain ⟨name, _, rfl⟩ := Option.map_eq_some_iff.mp hchange
    exact fun i _ => i.usable_clearAddress
  | describe target text =>
    obtain ⟨name, _, rfl⟩ := Option.map_eq_some_iff.mp hchange
    exact Interface.keepsUsable_setDescription text
  | setUp target up =>
    obtain ⟨name, _, rfl⟩ := Option.map_eq_some_iff.mp hchange
    exact Interface.keepsUsable_setUp up
  | deleteInterface name =>
    obtain ⟨there, _, rfl⟩ := Option.map_eq_some_iff.mp hchange
    trivial
  | setZone interface zone =>
    cases hchange
    exact Interface.keepsUsable_setZone (some zone)
  | clearZone interface =>
    obtain ⟨name, _, rfl⟩ := Option.map_eq_some_iff.mp hchange
    exact Interface.keepsUsable_setZone none
  | setEditedZone interface =>
    obtain ⟨zone, _, rfl⟩ := Option.map_eq_some_iff.mp hchange
    exact Interface.keepsUsable_setZone (some zone)
  | clearEditedZone interface =>
    obtain ⟨_, _, hreleased⟩ := Option.bind_eq_some_iff.mp hchange
    obtain ⟨name, _, rfl⟩ := Option.map_eq_some_iff.mp hreleased
    exact Interface.keepsUsable_setZone none
  | addRoute destination nextHop =>
    cases hchange
    exact keepsUsable_routeChange (Network.isSome_readPrefix?_of_accepts hc.1) hc.2
  | addEditedRoute nextHop =>
    obtain ⟨destination, hframe, rfl⟩ := Option.map_eq_some_iff.mp hchange
    exact keepsUsable_routeChange (isSome_readPrefix?_of_edited h hframe) hc
  | deleteRoute destination =>
    obtain ⟨_, hremoved⟩ := Option.ite_none_right_eq_some.mp hchange
    cases hremoved
    exact fun _ hroutes => hroutes.filter _
  | setHostname name =>
    cases hchange
    trivial
  | _ => cases hchange

/-- No command with addresses from a line leaves one that cannot be used. -/
theorem sound_run {c : Command} (hc : c.Addressed) (h : Sound d) (devices : Inventory) :
    Sound (c.run devices d) := by
  by_cases hstates : c.isStatement = true
  · exact statement_induction hstates devices
      (fun change hchange => h.stage (keepsUsable_of_change? hc h hchange)) h.log
  cases c with
  | accept => exact h
  | configure => exact h.of_same rfl rfl
  | exit =>
    rw [Command.run]
    split
    next => exact h.leave
    next => exact h.pop
  | leave => exact h.leave
  | ascend => exact h.pop
  | top => exact h.atTop
  | commit => exact h.commit
  | commitAndQuit => exact h.commit.leave
  | rollback =>
    have hdropped : Sound d.discard := ⟨h.usable.discard, h.frames⟩
    exact hdropped.log "load complete"
  | editInterface name =>
    have hstaged := h.stage (c := .interface (resolve d name none) id) Interface.keepsUsable_id
    exact hstaged.push fun hkind => FrameKind.noConfusion hkind
  | editObject kind name => exact h.push hc
  | setAddress | clearAddress | describe | setUp | deleteInterface | setZone | clearZone
  | setEditedZone | clearEditedZone | addRoute | addEditedRoute | deleteRoute | setHostname =>
    exact absurd rfl hstates
  | _ => exact h.of_forget (forget_run_of_inspects rfl devices d)

theorem sound_interpret (h : Sound d) (help : List String) (devices : Inventory) (line : String) :
    Sound (dialect.interpret help devices line d) := by
  refine Dialect.kept_interpret (P := Sound) (fun text h => h.log text) ?_ h help
  intro d m h hdone
  cases m with
  | command c => exact sound_run (addressed_of_done hdone) h devices
  | carried text => exact h.of_forget (carriesSafely.forget_act hdone devices d)

end Junos

/-! ## Along any lines -/

variable {d : Device}

/-- What the commands of its dialect keep usable, a device keeps usable along any lines. -/
theorem usable_lines_of {κ : Type} {l : Dialect κ} {f : Family}
    (hspeaks : ∀ {d : Device}, d.family = f → l.Speaks d)
    (hrun : ∀ c, l.FromLine c → ∀ devices {d : Device}, Usable d → Usable (l.run devices c d))
    (hfamily : d.family = f) (h : Usable d) (lines : List (Inventory × String)) :
    Usable (d.enterLines lines) := by
  have hviews : ∀ d : Device, Usable d.config = Usable d :=
    fun d => propext ⟨fun h => h.of_config rfl, fun h => h.of_config rfl⟩
  refine Dialect.kept_lines (P := Usable) ?_ hfamily h lines
  intro d hfamily h devices line
  obtain ⟨help, hinterpret⟩ := hspeaks hfamily
  rw [hinterpret]
  exact Dialect.related_interpret (v := Usable) (R := fun before after => before → after) hviews
    (fun _ h => h) (fun c hc devices d => hrun c hc devices) help devices line d h

/-- Addresses stay usable along any lines. On a Junos device the routes that are edited have to be
    networks to begin with, as they are when nothing is. -/
theorem usable_lines (hfamily : d.family ≠ .cloud) (htop : d.context = []) (h : Usable d)
    (lines : List (Inventory × String)) : Usable (d.enterLines lines) := by
  cases hf : d.family with
  | cisco =>
    refine usable_lines_of Ios.speaks ?_ hf h lines
    rintro c ⟨mode, context, text, hdone⟩ devices d h
    exact Ios.usable_run (Ios.fromLine_of_done (areWords_words text) hdone) h devices
  | fortinet =>
    refine usable_lines_of FortiOs.speaks ?_ hf h lines
    rintro c ⟨mode, context, text, hdone⟩ devices d h
    obtain ⟨_, ⟨⟩, hfrom⟩ := FortiOs.fromLine_of_done (areWords_words text) hdone
    exact FortiOs.usable_run hfrom h devices
  | paloAlto =>
    refine usable_lines_of PanOs.speaks ?_ hf h lines
    rintro c ⟨mode, context, text, hdone⟩ devices d h
    exact PanOs.usable_run (PanOs.addressed_of_done hdone) h devices
  | juniper =>
    have hframes : ∀ f ∈ d.context, f.kind = .staticRoute → Network.IsCanonical f.name := by
      rw [htop]
      exact List.forall_mem_nil _
    refine Junos.Sound.usable (Dialect.kept_lines (P := Junos.Sound) ?_ hf ⟨h, hframes⟩ lines)
    intro d hf h devices line
    obtain ⟨help, hinterpret⟩ := Junos.speaks hf
    rw [hinterpret]
    exact Junos.sound_interpret h help devices line
  | cloud => exact absurd hf hfamily

/-- **Addresses stay usable.** On the console of a network device, with nothing being edited at
    first, every interface, live or staged, has no address or one that makes a network with its
    mask, and every route leads to a network in its one form over an address, if this was so before
    the lines. So a route is the default route exactly when the length of its prefix is zero. -/
theorem addresses_usable (hfamily : d.family ≠ .cloud) (htop : d.context = []) (h : Usable d)
    (lines : List (Inventory × String)) :
    Usable (d.enterLines lines) ∧
      ∀ r, (r ∈ (d.enterLines lines).routes ∨
          ∃ c routes, (d.enterLines lines).candidate = some c ∧ c.routes = some routes ∧
            r ∈ routes) →
        (r.isDefault = true ↔
          ∃ net, Network.readPrefix? r.destination = some net ∧ net.length = 0) := by
  have hafter := usable_lines hfamily htop h lines
  refine ⟨hafter, fun r hr => Route.Usable.isDefault_iff ?_⟩
  rcases hr with hlive | ⟨c, routes, hc, hroutes, hstaged⟩
  · exact hafter.routes r hlive
  · exact hafter.stagedRoutes c routes hc hroutes r hstaged

/-- A prefix of length zero makes the default route also when it is written with host bits and two
    slashes, and its route is edited before it gets a next hop. -/
theorem addresses_usable_host_bits :
    let d : Device :=
      { id := "r1", name := "r1", kind := .router, vendor := .juniper, mode := .edit
        interfaces := SortedMap.ofList [("ge-0/0/0", { ip := "10.0.0.2", mask := "/+24" })] }
    let typed : List (Inventory × String) :=
      [(SortedMap.empty, "edit routing-options static route 10.1.2.3//0"),
        (SortedMap.empty, "set next-hop 10.0.0.1")]
    let r : Route := { destination := "0.0.0.0/0", nextHop := "10.0.0.1" }
    Usable d ∧ Usable (d.enterLines typed) ∧
      (d.enterLines typed).candidate = some { routes := some [r] } ∧ r.isDefault = true := by
  intro d typed r
  have hbefore : Usable d := by
    refine ⟨fun name i hi => ?_, List.forall_mem_nil _, nofun, nofun⟩
    have hall : ∀ e ∈ d.interfaces.entries, e.2.net?.isSome = true := by decide +kernel
    exact .inr (hall (name, i) (SortedMap.mem_entries_iff.mpr hi))
  have hcandidate : (d.enterLines typed).candidate = some { routes := some [r] } := by
    decide +kernel
  obtain ⟨hafter, hdefault⟩ := addresses_usable (by decide) rfl hbefore typed
  refine ⟨hbefore, hafter, hcandidate, ?_⟩
  refine (hdefault r (.inr ⟨_, [r], hcandidate, rfl, List.mem_singleton_self r⟩)).mpr ?_
  exact ⟨⟨⟨0, 0, 0, 0⟩, 0, by decide⟩, by decide +kernel, rfl⟩

end TrainingLab
