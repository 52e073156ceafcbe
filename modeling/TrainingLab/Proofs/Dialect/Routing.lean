import TrainingLab.Proofs.Device.Route
import TrainingLab.Proofs.Dialect.Ios.Reading
import TrainingLab.Proofs.Dialect.Junos.InterfaceChange
import TrainingLab.Proofs.Dialect.PanOs.InterfaceChange

/-
  Static routes on the consoles that have statements for them. Each dialect has its own notation:
  IOS takes an address and a dotted mask, Junos and PAN-OS a prefix with its mask in any notation,
  and Junos also takes a next hop alone where a route has been opened. They have in common that an
  address stands for its network, and that a route is added only if it is not there. Junos works on
  the routes that it stages for a commit, the others on those that are live.

  Proved:
  * `editedRoutes_of_states`: every statement of a route adds the route to the network.
  * `routes_removeRoute`: what `no ip route` removes, on networks.
  * `Ios.routeStep_run`, `PanOs.routeStep_run`, `Junos.distinctRoutes_run`: what a command can do to
    the routes.
  * `routes_by_network`: all of it for lines, and along every run of lines.
-/

namespace TrainingLab

open Grammar Device

variable {d : Device} {line : String}

/-! ## Statements -/

/-- The routes that statements are about: what is staged on Junos, and what is live elsewhere. -/
def Device.editedRoutes (d : Device) : List Route :=
  match d.family with
  | .juniper => d.stagedRoutes
  | _ => d.routes

/-- The route to the network of an address. -/
def Route.toNetwork (c : Network.Cidr) (nextHop : Network.Address) : Route :=
  { destination := c.network.toText, nextHop := nextHop.toText }

/-- The words state a route to the network of `c`, where the console is. -/
inductive StatesRoute (d : Device) (c : Network.Cidr) (nextHop : Network.Address) :
    List String → Prop
  | ios (hfamily : d.family = .cisco) (hmode : d.mode = .config) :
      StatesRoute d c nextHop ["ip", "route", c.address.toText, c.mask.toText, nextHop.toText]
  | junos (hfamily : d.family = .juniper) (hmode : d.mode = .edit) (htop : d.context = [])
      {mask : String} (hmask : Network.readMask? mask = some c.length) :
      StatesRoute d c nextHop
        ["set", "routing-options", "static", "route", c.address.toText ++ "/" ++ mask, "next-hop",
          nextHop.toText]
  /-- Where the route has been opened. -/
  | junosInside (hfamily : d.family = .juniper) (hmode : d.mode = .edit)
      {outer : List Frame} (hframe : d.context = ⟨.staticRoute, c.network.toText⟩ :: outer) :
      StatesRoute d c nextHop ["set", "next-hop", nextHop.toText]
  | panOs (hfamily : d.family = .paloAlto) (hmode : d.mode = .config)
      (router route : String) {mask : String} (hmask : Network.readMask? mask = some c.length) :
      StatesRoute d c nextHop
        ["set", "network", "virtual-router", router, "routing-table", "ip", "static-route", route,
          "destination", c.address.toText ++ "/" ++ mask, "nexthop", "ip-address", nextHop.toText]

theorem editedRoutes_of_juniper (h : d.family = .juniper) : d.editedRoutes = d.stagedRoutes := by
  rw [editedRoutes, h]

theorem editedRoutes_of_live (h : d.family ≠ .juniper) : d.editedRoutes = d.routes := by
  unfold editedRoutes
  split
  next hjuniper => exact absurd hjuniper h
  next => rfl

/-- Where a statement is taken depends on the place of the console alone. -/
theorem StatesRoute.of_place {e : Device} {c : Network.Cidr} {nextHop : Network.Address}
    {tokens : List String} (h : StatesRoute d c nextHop tokens) (hfamily : e.family = d.family)
    (hmode : e.mode = d.mode) (hcontext : e.context = d.context) :
    StatesRoute e c nextHop tokens := by
  cases h with
  | ios hf hm => exact .ios (hfamily.trans hf) (hmode.trans hm)
  | junos hf hm htop hmask =>
    exact .junos (hfamily.trans hf) (hmode.trans hm) (hcontext.trans htop) hmask
  | junosInside hf hm hframe =>
    exact .junosInside (hfamily.trans hf) (hmode.trans hm) (hcontext.trans hframe)
  | panOs hf hm router route hmask =>
    exact .panOs (hfamily.trans hf) (hmode.trans hm) router route hmask

/-! ## Tables -/

theorem Ios.dispatch_removeRoute (context : List Frame) (c : Network.Cidr)
    (nextHop : Option Network.Address) :
    dispatch .config context
      (["no", "ip", "route", c.address.toText, c.mask.toText] ++
        (nextHop.map Network.Address.toText).toList) table =
      .done (.command (.removeRoute c.address.toText c.mask.toText
        (nextHop.map Network.Address.toText))) := by
  have helements : (Pattern.ofText "no ip route <ip> <mask> [<next-hop>]").elements =
      [.keyword "no" false, .keyword "ip" false, .keyword "route" false,
        .argument "ip" .address false, .argument "mask" .mask false,
        .argument "next-hop" .address true] := by decide
  have hoption : ∀ caps : Captures,
      (align [.argument "next-hop" .address true] (nextHop.map Network.Address.toText).toList
          caps).1 =
        .full ((nextHop.map Network.Address.toText).elim caps (caps.insert "next-hop")) := by
    intro caps
    cases nextHop with
    | none => rfl
    | some n => exact align_last_option (accepts_address n) "next-hop" caps
  have hm : (Pattern.ofText "no ip route <ip> <mask> [<next-hop>]").matches
      (["no", "ip", "route", c.address.toText, c.mask.toText] ++
        (nextHop.map Network.Address.toText).toList) =
      .full ((nextHop.map Network.Address.toText).elim
        ((SortedMap.empty.insert "ip" c.address.toText).insert "mask" c.mask.toText)
        (((SortedMap.empty.insert "ip" c.address.toText).insert "mask" c.mask.toText).insert
          "next-hop")) := by
    rw [Pattern.matches, helements, List.cons_append, align_keyword (by decide), List.cons_append,
      align_keyword (by decide), List.cons_append, align_keyword (by decide), List.cons_append,
      align_argument (accepts_address c.address), List.cons_append,
      align_argument (accepts_mask c), List.nil_append, hoption]
  rw [dispatch_anywhere table_anywhere [], List.cons_append, dispatch_fromWord]
  refine (dispatch_cons_of_full (r := Rule.on _ _ _) rfl hm _).trans ?_
  cases nextHop <;> rfl

theorem Junos.dispatch_addRoute {cidr nextHop : String}
    (hcidr : ArgumentKind.cidr.accepts cidr = true)
    (hnext : ArgumentKind.address.accepts nextHop = true) :
    dispatch .edit []
      ["set", "routing-options", "static", "route", cidr, "next-hop", nextHop] table =
      .done (.command (.addRoute cidr nextHop)) := by
  let pattern := Pattern.ofText "set routing-options static route <cidr> next-hop <next-hop>"
  have helements : pattern.elements =
      [.keyword "set" false, .keyword "routing-options" false, .keyword "static" false,
        .keyword "route" false, .argument "cidr" .cidr false, .keyword "next-hop" false,
        .argument "next-hop" .address false] := by decide
  have hm : pattern.matches
      ["set", "routing-options", "static", "route", cidr, "next-hop", nextHop] =
      .full ((SortedMap.empty.insert "cidr" cidr).insert "next-hop" nextHop) := by
    rw [Pattern.matches, helements, align_keyword (by decide), align_keyword (by decide),
      align_keyword (by decide), align_keyword (by decide), align_argument hcidr,
      align_keyword (by decide), align_argument hnext, align_nil]
  -- the statements in front are about interfaces and zones
  have hfront : dispatch .edit []
      ["set", "routing-options", "static", "route", cidr, "next-hop", nextHop]
      (statements.take 9) = .unknown := rfl
  have hsplit := dispatch_append_of_unknown hfront (statements.drop 9)
  rw [List.take_append_drop] at hsplit
  rw [dispatch_statements (by decide), hsplit]
  exact dispatch_cons_of_full (r := inside _ _ _) rfl hm _

theorem Junos.dispatch_addEditedRoute (name : String) (outer : List Frame) {nextHop : String}
    (hnext : ArgumentKind.address.accepts nextHop = true) :
    dispatch .edit (⟨.staticRoute, name⟩ :: outer) ["set", "next-hop", nextHop] table =
      .done (.command (.addEditedRoute nextHop)) := by
  have helements : (Pattern.ofText "set next-hop <next-hop>").elements =
      [.keyword "set" false, .keyword "next-hop" false,
        .argument "next-hop" .address false] := by decide
  have hm : (Pattern.ofText "set next-hop <next-hop>").matches ["set", "next-hop", nextHop] =
      .full (SortedMap.empty.insert "next-hop" nextHop) := by
    rw [Pattern.matches, helements, align_keyword (by decide), align_keyword (by decide),
      align_argument hnext, align_nil]
  rw [dispatch_fromWord]
  exact dispatch_cons_of_full (r := inside _ _ _) rfl hm _

theorem Junos.dispatch_editRoute {cidr : String}
    (hcidr : ArgumentKind.cidr.accepts cidr = true) :
    dispatch .edit [] ["edit", "routing-options", "static", "route", cidr] table =
      .done (.command (.editObject .staticRoute (Network.canonicalPrefix cidr))) := by
  have helements : (Pattern.ofText "edit routing-options static route <cidr>").elements =
      [.keyword "edit" false, .keyword "routing-options" false, .keyword "static" false,
        .keyword "route" false, .argument "cidr" .cidr false] := by decide
  have hm : (Pattern.ofText "edit routing-options static route <cidr>").matches
      ["edit", "routing-options", "static", "route", cidr] =
      .full (SortedMap.empty.insert "cidr" cidr) := by
    rw [Pattern.matches, helements, align_keyword (by decide), align_keyword (by decide),
      align_keyword (by decide), align_keyword (by decide), align_argument hcidr, align_nil]
  -- the objects in front are interfaces and zones
  rw [dispatch_fromWord]
  refine dispatch_cons_of_none (r := inside _ _ _) rfl ?_
  refine dispatch_cons_of_none (r := inside _ _ _) rfl ?_
  exact dispatch_cons_of_full (r := inside _ _ _) rfl hm _

theorem PanOs.dispatch_addRoute (context : List Frame) (router route : String)
    {cidr nextHop : String} (hcidr : ArgumentKind.cidr.accepts cidr = true)
    (hnext : ArgumentKind.address.accepts nextHop = true) :
    dispatch .config context
      ["set", "network", "virtual-router", router, "routing-table", "ip", "static-route", route,
        "destination", cidr, "nexthop", "ip-address", nextHop] table =
      .done (.command (.addRoute cidr nextHop)) := by
  let pattern := Pattern.ofText ("set network virtual-router <vr> routing-table ip static-route " ++
    "<route> destination <cidr> nexthop ip-address <next-hop>")
  have helements : pattern.elements =
      [.keyword "set" false, .keyword "network" false, .keyword "virtual-router" false,
        .argument "vr" .word false, .keyword "routing-table" false, .keyword "ip" false,
        .keyword "static-route" false, .argument "route" .word false,
        .keyword "destination" false, .argument "cidr" .cidr false, .keyword "nexthop" false,
        .keyword "ip-address" false, .argument "next-hop" .address false] := by
    decide +kernel
  have hm : pattern.matches
      ["set", "network", "virtual-router", router, "routing-table", "ip", "static-route", route,
        "destination", cidr, "nexthop", "ip-address", nextHop] =
      .full ((((SortedMap.empty.insert "vr" router).insert "route" route).insert "cidr"
        cidr).insert "next-hop" nextHop) := by
    rw [Pattern.matches, helements, align_keyword (by decide), align_keyword (by decide),
      align_keyword (by decide), align_argument rfl, align_keyword (by decide),
      align_keyword (by decide), align_keyword (by decide), align_argument rfl,
      align_keyword (by decide), align_argument hcidr, align_keyword (by decide),
      align_keyword (by decide), align_argument hnext, align_nil]
  -- the statements in front are about interfaces, zones, the system and rules
  rw [dispatch_anywhere table_anywhere [], dispatch_fromWord]
  refine dispatch_cons_of_none (r := Rule.on _ _ _) rfl ?_
  refine dispatch_cons_of_none (r := prints _ _ _) rfl ?_
  refine dispatch_cons_of_none (r := Rule.on _ _ _) rfl ?_
  refine dispatch_cons_of_none (r := Rule.on _ _ _) rfl ?_
  refine dispatch_cons_of_none (r := Rule.on _ _ _) rfl ?_
  refine dispatch_cons_of_none (r := Rule.on _ _ _) rfl ?_
  exact dispatch_cons_of_full (r := Rule.on _ _ _) rfl hm _

/-! ## What a statement does -/

/-- A route is added to those that statements are about, and the console stays where it is. -/
structure AddsRoute (d : Device) (r : Route) (e : Device) : Prop where
  routes : e.editedRoutes = Route.addTo d.editedRoutes r
  family : e.family = d.family
  mode : e.mode = d.mode
  context : e.context = d.context

theorem AddsRoute.live (hlive : d.family ≠ .juniper) (r : Route) :
    AddsRoute d r { Dialect.echo line d with routes := Route.addTo d.routes r } where
  routes := by
    rw [editedRoutes_of_live hlive]
    exact editedRoutes_of_live
      (d := { Dialect.echo line d with routes := Route.addTo d.routes r }) hlive
  family := rfl
  mode := rfl
  context := rfl

theorem stagedRoutes_stageRoutes (d : Device) (f : List Route → List Route) :
    (d.stageRoutes f).stagedRoutes = f d.stagedRoutes := by
  unfold stagedRoutes stageRoutes staging
  cases d.candidate <;> rfl

theorem AddsRoute.staged (hfamily : d.family = .juniper) (r : Route) :
    AddsRoute d r ((Dialect.echo line d).stageRoutes fun routes => Route.addTo routes r) where
  routes := by
    rw [editedRoutes_of_juniper hfamily]
    exact (editedRoutes_of_juniper
      (d := (Dialect.echo line d).stageRoutes fun routes => Route.addTo routes r) hfamily).trans
      (stagedRoutes_stageRoutes _ _)
  family := rfl
  mode := rfl
  context := rfl

section States

variable {c : Network.Cidr} {nextHop : Network.Address}

theorem Ios.run_addRoute (devices : Inventory) (c : Network.Cidr) (nextHop : Network.Address)
    (d : Device) :
    Ios.Command.run devices (.addRoute c.address.toText c.mask.toText nextHop.toText) d =
      { d with routes := Route.addTo d.routes (.toNetwork c nextHop) } := by
  rw [Ios.Command.run, Ios.addRoute, Network.readNetwork?_address]
  rfl

theorem Junos.run_addRoute (devices : Inventory) {mask : String}
    (hmask : Network.readMask? mask = some c.length) (d : Device) :
    Junos.Command.run devices (.addRoute (c.address.toText ++ "/" ++ mask) nextHop.toText) d =
      d.stageRoutes fun routes => Route.addTo routes (.toNetwork c nextHop) := by
  rw [Junos.Command.run, Junos.addRoute, Network.canonicalPrefix_address hmask]
  rfl

/-- An open route is called by its network. -/
theorem Junos.run_addEditedRoute (devices : Inventory) {outer : List Frame}
    (hframe : d.context = ⟨.staticRoute, c.network.toText⟩ :: outer) :
    Junos.Command.run devices (.addEditedRoute nextHop.toText) d =
      d.stageRoutes fun routes => Route.addTo routes (.toNetwork c nextHop) := by
  have hopen : d.frameName? .staticRoute = some c.network.toText := frameName?_of_cons hframe
  have hadd : Junos.Command.run devices (.addEditedRoute nextHop.toText) d =
      Junos.addRoute c.network.toText nextHop.toText d := by
    simp only [Junos.Command.run, hopen]
  rw [hadd, Junos.addRoute, Network.canonicalPrefix_toText (Network.network_network c)]
  rfl

theorem PanOs.run_addRoute (devices : Inventory) {mask : String}
    (hmask : Network.readMask? mask = some c.length) (d : Device) :
    PanOs.Command.run devices (.addRoute (c.address.toText ++ "/" ++ mask) nextHop.toText) d =
      { d with routes := Route.addTo d.routes (.toNetwork c nextHop) } := by
  rw [PanOs.Command.run, Network.canonicalPrefix_address hmask]
  rfl

/-- A statement adds the route to the network of its address. -/
theorem addsRoute_of_states (h : StatesRoute d c nextHop (Text.words line)) (devices : Inventory) :
    AddsRoute d (.toNetwork c nextHop) (d.interpret devices line) := by
  generalize hwords : Text.words line = tokens at h
  cases h with
  | ios hfamily hmode =>
    have hdispatch := Ios.dispatch_addRoute d.context c nextHop
    rw [← hmode] at hdispatch
    have hrun := Dialect.interpret_of_command (Ios.speaks hfamily) hwords (by decide) (by decide)
      hdispatch devices
    have hlive : d.family ≠ .juniper := by
      rw [hfamily]
      decide
    have hcommands : Ios.dialect.run = Ios.Command.run := rfl
    rw [hrun, hcommands, Ios.run_addRoute]
    exact .live hlive _
  | @junos hfamily hmode htop mask hmask =>
    have hcidr : ArgumentKind.cidr.accepts (c.address.toText ++ "/" ++ mask) = true :=
      accepts_cidr c.address (Option.isSome_of_eq_some hmask)
    have hdispatch := Junos.dispatch_addRoute hcidr (accepts_address nextHop)
    rw [← hmode, ← htop] at hdispatch
    have hrun := Dialect.interpret_of_command (Junos.speaks hfamily) hwords (by decide) (by decide)
      hdispatch devices
    have hcommands : Junos.dialect.run = Junos.Command.run := rfl
    rw [hrun, hcommands, Junos.run_addRoute devices hmask]
    exact .staged hfamily _
  | @junosInside hfamily hmode outer hframe =>
    have hdispatch := Junos.dispatch_addEditedRoute c.network.toText outer (accepts_address nextHop)
    rw [← hmode, ← hframe] at hdispatch
    have hrun := Dialect.interpret_of_command (Junos.speaks hfamily) hwords (by decide) (by decide)
      hdispatch devices
    have hopen : (Dialect.echo line d).context = ⟨.staticRoute, c.network.toText⟩ :: outer := hframe
    have hcommands : Junos.dialect.run = Junos.Command.run := rfl
    rw [hrun, hcommands, Junos.run_addEditedRoute devices hopen]
    exact .staged hfamily _
  | @panOs hfamily hmode router route mask hmask =>
    have hcidr : ArgumentKind.cidr.accepts (c.address.toText ++ "/" ++ mask) = true :=
      accepts_cidr c.address (Option.isSome_of_eq_some hmask)
    have hdispatch :=
      PanOs.dispatch_addRoute d.context router route hcidr (accepts_address nextHop)
    rw [← hmode] at hdispatch
    have hrun := Dialect.interpret_of_command (PanOs.speaks hfamily) hwords (by decide) (by decide)
      hdispatch devices
    have hlive : d.family ≠ .juniper := by
      rw [hfamily]
      decide
    have hcommands : PanOs.dialect.run = PanOs.Command.run := rfl
    rw [hrun, hcommands, PanOs.run_addRoute devices hmask]
    exact .live hlive _

/-- Opening a route on Junos opens its network, and stages nothing. -/
theorem Junos.opens_of_edit (hfamily : d.family = .juniper) (hmode : d.mode = .edit)
    (htop : d.context = []) {mask : String} (hmask : Network.readMask? mask = some c.length)
    (hwords : Text.words line =
      ["edit", "routing-options", "static", "route", c.address.toText ++ "/" ++ mask])
    (devices : Inventory) :
    d.interpret devices line =
      (Dialect.echo line d).within [⟨.staticRoute, c.network.toText⟩] := by
  have hcidr : ArgumentKind.cidr.accepts (c.address.toText ++ "/" ++ mask) = true :=
    accepts_cidr c.address (Option.isSome_of_eq_some hmask)
  have hdispatch := Junos.dispatch_editRoute hcidr
  rw [Network.canonicalPrefix_address hmask, ← hmode, ← htop] at hdispatch
  have hcontext : (Dialect.echo line d).context = [] := htop
  have hpush : (Dialect.echo line d).push .staticRoute c.network.toText =
      (Dialect.echo line d).within [⟨.staticRoute, c.network.toText⟩] := by
    rw [push, hcontext]
    rfl
  exact (Dialect.interpret_of_command (Junos.speaks hfamily) hwords (by decide) (by decide)
    hdispatch devices).trans hpush

end States

/-! ## Removal -/

/-- What is removed are the routes with the text of the network and, if one is given, with the next
    hop. -/
theorem Ios.interpret_removeRoute (hfamily : d.family = .cisco) (hmode : d.mode = .config)
    (c : Network.Cidr) (nextHop : Option Network.Address)
    (hwords : Text.words line = ["no", "ip", "route", c.address.toText, c.mask.toText] ++
      (nextHop.map Network.Address.toText).toList) (devices : Inventory) :
    (d.interpret devices line).routes = d.routes.filter fun r =>
      !(r.destination == c.network.toText &&
        (nextHop.map Network.Address.toText).all (· == r.nextHop)) := by
  have hdispatch := Ios.dispatch_removeRoute d.context c nextHop
  rw [← hmode] at hdispatch
  have hrun := Dialect.interpret_of_command (Ios.speaks hfamily) hwords (by decide) (by decide)
    hdispatch devices
  have hremoved : Ios.Command.run devices
      (.removeRoute c.address.toText c.mask.toText (nextHop.map Network.Address.toText))
      (Dialect.echo line d) =
      { Dialect.echo line d with
        routes := d.routes.filter fun r => !(r.destination == c.network.toText &&
          (nextHop.map Network.Address.toText).all (· == r.nextHop)) } := by
    rw [Ios.Command.run, Ios.removeRoute, Network.readNetwork?_address]
    rfl
  have hcommands : Ios.dialect.run = Ios.Command.run := rfl
  rw [hrun, hcommands, hremoved]

/-- Where the destinations are canonical, these are the routes to the network. -/
theorem removed_iff {r : Route} (h : Network.IsCanonical r.destination) (c : Network.Cidr)
    (nextHop : Option Network.Address) :
    (r.destination == c.network.toText &&
      (nextHop.map Network.Address.toText).all (· == r.nextHop)) = true ↔
      r.IsTo c.network ∧ ∀ n ∈ nextHop, r.nextHop = n.toText := by
  rw [Route.isTo_iff h (Network.network_network c), Bool.and_eq_true, beq_iff_eq]
  refine and_congr_right fun _ => ?_
  cases nextHop with
  | none => simp
  | some n =>
    simp only [Option.map_some, Option.all_some, beq_iff_eq, Option.mem_def, Option.some.injEq,
      forall_eq']
    exact eq_comm

/-! ## Steps -/

namespace Ios

theorem routes_editInterface (f : Interface → Interface) (d : Device) :
    (editInterface f d).routes = d.routes := by
  unfold editInterface
  split <;> rfl

theorem routes_setAccessVlan (id : String) (d : Device) :
    (setAccessVlan id d).routes = d.routes := by
  unfold setAccessVlan
  split
  next => rfl
  next v _ =>
    split
    next => rfl
    next =>
      rw [routes_editInterface, noticeVlan]
      split <;> rfl

/-- Every command is a step of the routes. -/
theorem routeStep_run (c : Command) (devices : Inventory) (d : Device) :
    RouteStep d.routes (c.run devices d).routes := by
  cases c with
  | accept | enable | disable | configure | setHostname | enterInterface | enterRouter =>
    exact .same
  | exit =>
    rw [Command.run, exitMode]
    split <;> exact .same
  | leave =>
    rw [Command.run]
    split <;> exact .same
  | enterVlan id =>
    rw [Command.run, enterVlan]
    split <;> exact .same
  | removeVlan id =>
    rw [Command.run]
    split <;> exact .same
  | nameVlan name =>
    rw [Command.run, nameVlan]
    split <;> exact .same
  | addRoute ip mask nextHop =>
    rw [Command.run, addRoute]
    split
    next => exact .added _
    next => exact .same
  | removeRoute ip mask nextHop =>
    rw [Command.run, removeRoute]
    split
    next => exact .removed _
    next => exact .same
  | setAddress | clearAddress | setUp | setDescription | clearAccessVlan | setZone =>
    rw [Command.run, routes_editInterface]
    exact .same
  | setAccessVlan id =>
    rw [Command.run, routes_setAccessVlan]
    exact .same
  | _ =>
    rw [eq_of_forget Device.routes (fun _ => rfl) (forget_run_of_inspects rfl devices d)]
    exact .same

end Ios

namespace PanOs

/-- Every command is a step of the routes. -/
theorem routeStep_run (c : Command) (devices : Inventory) (d : Device) :
    RouteStep d.routes (c.run devices d).routes := by
  cases c with
  | accept | configure | exit | setAddress | setZone | setHostname => exact .same
  | setRule name field value =>
    rw [Command.run, setRule]
    split
    next => exact .same
    next =>
      split
      next => exact .same
      next => split <;> exact .same
  | deleteRule name =>
    rw [Command.run, deleteRule]
    split <;> exact .same
  | addRoute destination nextHop => exact .added _
  | _ =>
    rw [eq_of_forget Device.routes (fun _ => rfl) (forget_run_of_inspects rfl devices d)]
    exact .same

end PanOs

/-- What is live and what is staged have no duplicates. -/
structure DistinctRoutes (d : Device) : Prop where
  live : d.routes.Nodup
  staged : d.stagedRoutes.Nodup

namespace DistinctRoutes

variable {d' : Device}

theorem of_config (h : DistinctRoutes d) (hconfig : d'.config = d.config) : DistinctRoutes d' where
  live := by
    rw [eq_of_config Device.routes (fun _ => rfl) hconfig]
    exact h.live
  staged := by
    rw [eq_of_config Device.stagedRoutes (fun _ => rfl) hconfig]
    exact h.staged

theorem of_forget (h : DistinctRoutes d) (hsame : d'.forget = d.forget) : DistinctRoutes d' :=
  h.of_config (config_eq_of_forget hsame)

theorem log (h : DistinctRoutes d) (text : String) : DistinctRoutes (d.log text) :=
  h.of_config rfl

/-- A staged change takes its step on the staged routes. -/
theorem stage (h : DistinctRoutes d) (c : Change)
    (hc : ∀ routes, RouteStep routes ((WorkingCopy.apply ⟨SortedMap.empty, routes, ""⟩ c).routes)) :
    DistinctRoutes (d.stage c) where
  live := by
    have hlive : (d.stage c).routes = d.routes :=
      congrArg WorkingCopy.routes (liveView_stage d c)
    rw [hlive]
    exact h.live
  staged := by
    have hstaged := congrArg WorkingCopy.routes (stagedView_stage d c)
    have hstep : (d.stage c).stagedRoutes =
        (WorkingCopy.apply ⟨SortedMap.empty, d.stagedRoutes, ""⟩ c).routes := by
      refine hstaged.trans ?_
      cases c <;> rfl
    rw [hstep]
    exact (hc d.stagedRoutes).nodup h.staged

theorem discard (h : DistinctRoutes d) : DistinctRoutes d.discard := ⟨h.live, h.live⟩

theorem commit (h : DistinctRoutes d) : DistinctRoutes d.commit.1 := by
  have hlive : d.commit.1.routes = d.stagedRoutes :=
    congrArg WorkingCopy.routes (liveView_commit d)
  have hstaged : d.commit.1.stagedRoutes = d.commit.1.routes := by
    rw [stagedRoutes, candidate_commit]
    rfl
  refine ⟨?_, ?_⟩
  · rw [hlive]
    exact h.staged
  · rw [hstaged, hlive]
    exact h.staged

end DistinctRoutes

namespace Junos

theorem distinctRoutes_leave (h : DistinctRoutes d) : DistinctRoutes (leave d) := by
  by_cases hpending : d.hasPendingChanges = true
  · refine h.discard.of_config ?_
    rw [config_leave, if_pos hpending]
  · refine h.of_config ?_
    rw [config_leave, if_neg hpending]

/-- What a statement stages is a step of the routes. -/
theorem routeStep_of_change? {c : Command} {change : Change} (hchange : c.change? d = some change)
    (routes : List Route) :
    RouteStep routes (WorkingCopy.apply ⟨SortedMap.empty, routes, ""⟩ change).routes := by
  cases c with
  | setAddress | clearAddress | describe | setUp | deleteInterface | clearZone | setEditedZone =>
    obtain ⟨_, _, rfl⟩ := Option.map_eq_some_iff.mp hchange
    exact .same
  | clearEditedZone interface =>
    obtain ⟨_, _, hreleased⟩ := Option.bind_eq_some_iff.mp hchange
    obtain ⟨_, _, rfl⟩ := Option.map_eq_some_iff.mp hreleased
    exact .same
  | setZone | setHostname =>
    cases hchange
    exact .same
  | addRoute =>
    cases hchange
    exact .added _
  | addEditedRoute =>
    obtain ⟨_, _, rfl⟩ := Option.map_eq_some_iff.mp hchange
    exact .added _
  | deleteRoute =>
    obtain ⟨_, hremoved⟩ := Option.ite_none_right_eq_some.mp hchange
    cases hremoved
    exact .removed _
  | _ => cases hchange

/-- No command leaves a duplicate, live or staged. -/
theorem distinctRoutes_run (h : DistinctRoutes d) (c : Command) (devices : Inventory) :
    DistinctRoutes (c.run devices d) := by
  by_cases hstates : c.isStatement = true
  · exact statement_induction hstates devices
      (fun change hchange => h.stage change (routeStep_of_change? hchange)) h.log
  cases c with
  | accept => exact h
  | configure => exact h.of_config rfl
  | exit =>
    rw [Command.run]
    split
    next => exact distinctRoutes_leave h
    next => exact h.of_config rfl
  | leave => exact distinctRoutes_leave h
  | ascend | top | editObject => exact h.of_config rfl
  | commit => exact h.commit.log "commit complete"
  | commitAndQuit => exact distinctRoutes_leave (h.commit.log "commit complete")
  | rollback => exact h.discard.log "load complete"
  | editInterface name =>
    have hstaged := h.stage (.interface (resolve d name none) id) fun _ => .same
    exact hstaged.of_config rfl
  | setAddress | clearAddress | describe | setUp | deleteInterface | setZone | clearZone
  | setEditedZone | clearEditedZone | addRoute | addEditedRoute | deleteRoute | setHostname =>
    exact absurd rfl hstates
  | _ => exact h.of_forget (forget_run_of_inspects rfl devices d)

end Junos

/-! ## Along any lines -/

/-- A dialect whose commands take steps of the live routes leaves no duplicate there. -/
theorem nodup_interpret {κ : Type} {l : Dialect κ} (hspeaks : l.Speaks d)
    (hrun : ∀ c devices (d : Device), RouteStep d.routes (l.run devices c d).routes)
    (devices : Inventory) (line : String) (h : d.routes.Nodup) :
    (d.interpret devices line).routes.Nodup := by
  obtain ⟨help, hinterpret⟩ := hspeaks
  rw [hinterpret]
  exact Dialect.related_interpret (v := Device.routes)
    (R := fun before after => before.Nodup → after.Nodup) (fun _ => rfl) (fun _ h => h)
    (fun c _ devices d => (hrun c devices d).nodup) help devices line d h

/-- On Junos no line leaves a duplicate, live or staged. -/
theorem Junos.distinctRoutes_interpret (hfamily : d.family = .juniper) (devices : Inventory)
    (line : String) (h : DistinctRoutes d) : DistinctRoutes (d.interpret devices line) := by
  obtain ⟨help, hinterpret⟩ := speaks hfamily
  have hviews : ∀ d : Device, DistinctRoutes d.config = DistinctRoutes d :=
    fun d => propext ⟨fun h => h.of_config rfl, fun h => h.of_config rfl⟩
  rw [hinterpret]
  exact Dialect.related_interpret (v := DistinctRoutes) (R := fun before after => before → after)
    hviews (fun _ h => h) (fun c _ devices d h => distinctRoutes_run h c devices) help devices line
    d h

/-- The families whose consoles have statements for static routes. -/
def routingFamilies : List Family := [.cisco, .juniper, .paloAlto]

/-- Routes without duplicates stay so along any lines. -/
theorem nodup_lines (hfamily : d.family ∈ routingFamilies) (hlive : d.routes.Nodup)
    (hedited : d.editedRoutes.Nodup) (lines : List (Inventory × String)) :
    (d.enterLines lines).routes.Nodup ∧ (d.enterLines lines).editedRoutes.Nodup := by
  have hkept : (d.enterLines lines).family = d.family := Device.family_run d _
  simp only [routingFamilies, List.mem_cons, List.not_mem_nil, or_false] at hfamily
  rcases hfamily with hfamily | hfamily | hfamily
  · have hafter : (d.enterLines lines).routes.Nodup :=
      Dialect.kept_lines (P := fun d => d.routes.Nodup) (fun hf h devices line =>
        nodup_interpret (Ios.speaks hf) Ios.routeStep_run devices line h) hfamily hlive lines
    rw [editedRoutes_of_live (by rw [hkept, hfamily]; decide)]
    exact ⟨hafter, hafter⟩
  · rw [editedRoutes_of_juniper hfamily] at hedited
    have hafter : DistinctRoutes (d.enterLines lines) :=
      Dialect.kept_lines (P := DistinctRoutes) (fun hf h devices line =>
        Junos.distinctRoutes_interpret hf devices line h) hfamily ⟨hlive, hedited⟩ lines
    rw [editedRoutes_of_juniper (hkept.trans hfamily)]
    exact ⟨hafter.live, hafter.staged⟩
  · have hafter : (d.enterLines lines).routes.Nodup :=
      Dialect.kept_lines (P := fun d => d.routes.Nodup) (fun hf h devices line =>
        nodup_interpret (PanOs.speaks hf) PanOs.routeStep_run devices line h) hfamily hlive lines
    rw [editedRoutes_of_live (by rw [hkept, hfamily]; decide)]
    exact ⟨hafter, hafter⟩

/-- Static routes go to networks, whatever address in a network a line names.

    * Lines that state a route to one network over one next hop lead to the same routes, also where
      one of them stands inside a route that has been opened.
    * A statement leaves the console where it can be repeated, and wherever the routes are as it
      leaves them, stating the route again has no effect.
    * On Junos, opening a route stages nothing, and what is opened is the network.
    * On IOS, where the destinations are canonical, a removal takes away the routes to the network
      over the next hop, or all of them if none is given, and keeps the others in order. A route
      that was stated in front of its removal makes no difference.
    * No run of lines makes a duplicate where there is none, live or staged. -/
theorem routes_by_network {a b : Network.Cidr} (hshared : a.SharesNetwork b)
    (nextHop : Network.Address) (devices : Inventory) :
    (∀ {d e : Device} {line line' : String}, d.editedRoutes = e.editedRoutes →
      StatesRoute d a nextHop (Text.words line) → StatesRoute e b nextHop (Text.words line') →
      (d.interpret devices line).editedRoutes = (e.interpret devices line').editedRoutes) ∧
    (∀ {d : Device} {line line' : String}, StatesRoute d a nextHop (Text.words line) →
      (StatesRoute d b nextHop (Text.words line') →
        StatesRoute (d.interpret devices line) b nextHop (Text.words line')) ∧
      ∀ {e : Device}, e.editedRoutes = (d.interpret devices line).editedRoutes →
        StatesRoute e b nextHop (Text.words line') →
        (e.interpret devices line').editedRoutes = e.editedRoutes) ∧
    (∀ {d : Device} {line mask : String}, d.family = .juniper → d.mode = .edit → d.context = [] →
      Network.readMask? mask = some a.length →
      Text.words line =
        ["edit", "routing-options", "static", "route", a.address.toText ++ "/" ++ mask] →
      (d.interpret devices line).editedRoutes = d.editedRoutes ∧
        StatesRoute (d.interpret devices line) b nextHop ["set", "next-hop", nextHop.toText]) ∧
    (∀ {d : Device} {line : String} {gateway : Option Network.Address},
      d.family = .cisco → d.mode = .config →
      (∀ r ∈ d.routes, Network.IsCanonical r.destination) →
      Text.words line = ["no", "ip", "route", b.address.toText, b.mask.toText] ++
        (gateway.map Network.Address.toText).toList →
      (d.interpret devices line).routes =
          d.routes.filter (fun r => ¬ (r.IsTo b.network ∧ ∀ n ∈ gateway, r.nextHop = n.toText)) ∧
        ∀ {statement : String}, StatesRoute d a nextHop (Text.words statement) →
          (∀ n ∈ gateway, n = nextHop) →
          ((d.interpret devices statement).interpret devices line).routes =
            (d.interpret devices line).routes) ∧
    (∀ {d : Device}, d.family ∈ routingFamilies → d.routes.Nodup → d.editedRoutes.Nodup →
      ∀ lines, (d.enterLines lines).routes.Nodup ∧ (d.enterLines lines).editedRoutes.Nodup) := by
  have hnetwork : a.network = b.network := Network.Cidr.network_eq_of_sharesNetwork hshared
  have hroute : Route.toNetwork a nextHop = .toNetwork b nextHop := by
    rw [Route.toNetwork, hnetwork]
    rfl
  refine ⟨?stated, ?repeated, ?opened, ?removed, ?distinct⟩
  case stated =>
    intro d e line line' hsame hd he
    rw [(addsRoute_of_states hd devices).routes, (addsRoute_of_states he devices).routes, hsame,
      hroute]
  case repeated =>
    intro d line line' hd
    have hadds := addsRoute_of_states hd devices
    refine ⟨fun hd' => hd'.of_place hadds.family hadds.mode hadds.context, ?_⟩
    intro e hsame he
    rw [(addsRoute_of_states he devices).routes, hsame, hadds.routes, hroute, Route.addTo_addTo]
  case opened =>
    intro d line mask hfamily hmode htop hmask hwords
    have hopens := Junos.opens_of_edit hfamily hmode htop hmask hwords devices
    rw [hopens]
    exact ⟨rfl, .junosInside hfamily hmode (congrArg (fun net : Network.Cidr =>
      [(⟨.staticRoute, net.toText⟩ : Frame)]) hnetwork)⟩
  case removed =>
    intro d line gateway hfamily hmode hcanonical hwords
    have hremoved := Ios.interpret_removeRoute hfamily hmode b gateway hwords devices
    refine ⟨?_, fun {statement} hstates hgateway => ?_⟩
    · rw [hremoved]
      refine List.filter_congr fun r hr => ?_
      have hiff := removed_iff (hcanonical r hr) b gateway
      simp only [← hiff, Bool.not_eq_true, Bool.decide_eq_false]
    · have hadds := addsRoute_of_states hstates devices
      have hlive : d.family ≠ .juniper := by
        rw [hfamily]
        decide
      have hroutes : (d.interpret devices statement).routes =
          Route.addTo d.routes (.toNetwork b nextHop) := by
        rw [← editedRoutes_of_live (hadds.family ▸ hlive), hadds.routes,
          editedRoutes_of_live hlive, hroute]
      have hgone : (!((Route.toNetwork b nextHop).destination == b.network.toText &&
          (gateway.map Network.Address.toText).all
            (· == (Route.toNetwork b nextHop).nextHop))) = false := by
        cases gateway with
        | none => simp [Route.toNetwork]
        | some n => simp [Route.toNetwork, hgateway n rfl]
      rw [Ios.interpret_removeRoute (hadds.family.trans hfamily) (hadds.mode.trans hmode) b gateway
        hwords, hroutes, hremoved, Route.filter_addTo hgone]
  case distinct =>
    intro d hfamily hlive hedited lines
    exact nodup_lines hfamily hlive hedited lines

theorem routes_by_network_removal :
    let lab : Inventory := SortedMap.empty
    let d : Device :=
      { id := "r1", name := "r1", kind := .router, vendor := .cisco, mode := .config }
    ((d.interpret lab "ip route 10.1.2.3 255.255.255.0 10.0.0.1").interpret lab
        "no ip route 10.1.2.200 255.255.255.0 10.0.0.1").routes =
      (d.interpret lab "no ip route 10.1.2.200 255.255.255.0 10.0.0.1").routes := by
  intro lab d
  let a : Network.Cidr := { address := ⟨10, 1, 2, 3⟩, length := 24 }
  let b : Network.Cidr := { address := ⟨10, 1, 2, 200⟩, length := 24 }
  let nextHop : Network.Address := ⟨10, 0, 0, 1⟩
  have hshared : a.SharesNetwork b := ⟨rfl, by decide⟩
  have hstatement : Text.words "ip route 10.1.2.3 255.255.255.0 10.0.0.1" =
      ["ip", "route", a.address.toText, a.mask.toText, nextHop.toText] := by decide
  have hremoval : Text.words "no ip route 10.1.2.200 255.255.255.0 10.0.0.1" =
      ["no", "ip", "route", b.address.toText, b.mask.toText] ++
        ((some nextHop).map Network.Address.toText).toList := by decide
  have hremoved := (routes_by_network hshared nextHop lab).2.2.2.1 (d := d) rfl rfl
    (List.forall_mem_nil _) hremoval
  exact hremoved.2 (hstatement ▸ .ios rfl rfl) fun n hn => (Option.some.inj hn).symm

end TrainingLab
