import TrainingLab.Proofs.Dialect.FortiOs.Nesting

/-
  Editing an object on FortiOS. While there is an object for every frame, a setting finds the
  object that it is for, and `show` lists this object and no other. The listings pick an object by
  its text, so this takes that different ids and positions are written differently.

  Proved:
  * `found_of_names`: the settings of an object find it.
  * `showOpen_of_names`: the listing of an object has one block, which is the object's.
  * `nesting_invariant`: both along every run, with the stack that they need.
-/

namespace TrainingLab.FortiOs

open Grammar Device

variable {d : Device}

/-! ## Settings -/

/-- The settings of the kind find the object being edited: none of them takes it for missing. A
    position is read back as a word of the machine, into which every position of a list fits. -/
def Found (k : ObjectKind) (d : Device) : Prop :=
  match k with
  | .interface => ∃ name, d.frame? = some ⟨.interface, name⟩ ∧
      ∀ f, editInterface f d = d.editInterface name f
  | .policy => ∃ id : UInt32, d.frame? = some ⟨.policyObject, toString id⟩ ∧
      ∀ f, editPolicy f d = { d with policies := editFirst id f d.policies }
  | .route => ∃ n : Nat, d.frame? = some ⟨.staticRoute, toString n⟩ ∧ (n < UInt64.size →
      ∀ f, editRoute f d = { d with routes := d.routes.modify (n - 1) f })

theorem any_id_eq {l : List Policy} {id : UInt32} (h : (l.map Policy.id).count id = 1) :
    l.any (fun p => p.id == id) = true := by
  have hmem : id ∈ l.map Policy.id := List.count_pos_iff.mp (by omega)
  obtain ⟨p, hp, hid⟩ := List.mem_map.mp hmem
  exact List.any_eq_true.mpr ⟨p, hp, beq_iff_eq.mpr hid⟩

theorem found_of_names {k : ObjectKind} {name : String} {rest : List Frame}
    (hcontext : d.context = ⟨k.frameKind, name⟩ :: rest) (h : k.Names d name) : Found k d := by
  have hframe : d.frame? = some ⟨k.frameKind, name⟩ := by rw [frame?, hcontext]; rfl
  cases k with
  | interface =>
    have hname : d.frameName? .interface = some name := frameName?_of_cons hcontext
    exact ⟨name, hframe, fun f => by rw [editInterface, hname]⟩
  | policy =>
    have hname : d.frameName? .policyObject = some name := frameName?_of_cons hcontext
    obtain ⟨id, rfl, hid⟩ := h
    refine ⟨id, hframe, fun f => ?_⟩
    rw [editPolicy, hname, Option.bind_some, Text.readUInt32?_toString]
    exact if_pos (any_id_eq hid)
  | route =>
    have hname : d.frameName? .staticRoute = some name := frameName?_of_cons hcontext
    obtain ⟨n, rfl, hn⟩ := h
    refine ⟨n, hframe, fun hword f => ?_⟩
    rw [editRoute, hname, Option.bind_some, Text.readPosition?_toString hword]
    exact if_pos hn

/-! ## Blocks -/

/-- The line makes one setting. -/
def IsSetting (line : String) : Prop := ∃ setting, line = "        set " ++ setting

/-- The lines begin a block: a title and settings. -/
def BeginsBlock (lines : List String) : Prop :=
  ∃ title settings, lines = ("    edit " ++ title) :: settings ∧ ∀ line ∈ settings, IsSetting line

/-- The lines are a block: the beginning of one, and its end. -/
def IsBlock (lines : List String) : Prop :=
  ∃ beginning, lines = beginning ++ ["    next"] ∧ BeginsBlock beginning

theorem IsSetting.append {line : String} (h : IsSetting line) (text : String) :
    IsSetting (line ++ text) := by
  obtain ⟨setting, rfl⟩ := h
  exact ⟨setting ++ text, String.append_assoc⟩

theorem BeginsBlock.append {lines more : List String} (h : BeginsBlock lines)
    (hmore : ∀ line ∈ more, IsSetting line) : BeginsBlock (lines ++ more) := by
  obtain ⟨title, settings, rfl, hsettings⟩ := h
  exact ⟨title, settings ++ more, rfl, List.forall_mem_append.mpr ⟨hsettings, hmore⟩⟩

/-- The block in which the object of a frame is listed. -/
inductive ObjectBlock (d : Device) : Frame → List String → Prop
  | interface {name : String} {i : Interface} (h : d.interfaces.find? name = some i) :
      ObjectBlock d ⟨.interface, name⟩ (interfaceBlock name i)
  | policy {p : Policy} (h : p ∈ d.policies) :
      ObjectBlock d ⟨.policyObject, toString p.id⟩ (policyBlock p)
  | route {n : Nat} {r : Route} (h : d.routes[n]? = some r) :
      ObjectBlock d ⟨.staticRoute, toString (n + 1)⟩ (routeBlock (toString (n + 1)) r)

theorem isBlock_interfaceBlock (name : String) (i : Interface) :
    IsBlock (interfaceBlock name i) := by
  have htitle : BeginsBlock ["    edit \"" ++ name ++ "\""] := by
    refine ⟨"\"" ++ name ++ "\"", [], ?_, List.forall_mem_nil _⟩
    rw [← String.append_assoc, ← String.append_assoc]
    rfl
  have hip : IsSetting ("        set ip " ++ i.ip ++ " ") := .append (.append ⟨"ip ", rfl⟩ _) _
  have halias : IsSetting "        set alias \"" := ⟨"alias \"", rfl⟩
  have hzone : IsSetting "        set zone \"" := ⟨"zone \"", rfl⟩
  have hstatus : IsSetting "        set status down" := ⟨"status down", rfl⟩
  refine ⟨_, rfl, (((htitle.append ?_).append ?_).append ?_).append ?_⟩
  · split <;> simp [IsSetting.append, hip]
  · split <;> simp [IsSetting.append, halias]
  · split <;> simp [IsSetting.append, hzone]
  · split <;> simp [hstatus]

theorem isBlock_policyBlock (p : Policy) : IsBlock (policyBlock p) := by
  have hname : IsSetting "        set name \"" := ⟨"name \"", rfl⟩
  have hfrom : IsSetting "        set srcintf \"" := ⟨"srcintf \"", rfl⟩
  have hto : IsSetting "        set dstintf \"" := ⟨"dstintf \"", rfl⟩
  have hsource : IsSetting "        set srcaddr \"" := ⟨"srcaddr \"", rfl⟩
  have hdestination : IsSetting "        set dstaddr \"" := ⟨"dstaddr \"", rfl⟩
  have haction : IsSetting "        set action " := ⟨"action ", rfl⟩
  have hservice : IsSetting "        set service \"" := ⟨"service \"", rfl⟩
  refine ⟨(policyBlock p).dropLast, rfl, toString p.id, _, rfl, ?_⟩
  simp [IsSetting.append, hname, hfrom, hto, hsource, hdestination, haction, hservice]

theorem isBlock_routeBlock (position : String) (r : Route) :
    IsBlock (routeBlock position r) := by
  have hdestination : ∀ network, IsSetting ("        set dst " ++ network ++ " ") :=
    fun _ => .append (.append ⟨"dst ", rfl⟩ _) _
  have hgateway : IsSetting "        set gateway " := ⟨"gateway ", rfl⟩
  have hdevice : IsSetting "        set device \"" := ⟨"device \"", rfl⟩
  refine ⟨_, rfl, BeginsBlock.append ⟨position, _, rfl, ?_⟩ ?_⟩
  · simp [IsSetting.append, hdestination, hgateway]
  · split <;> simp [IsSetting.append, hdevice]

theorem ObjectBlock.isBlock {frame : Frame} {lines : List String}
    (h : ObjectBlock d frame lines) : IsBlock lines := by
  cases h with
  | interface _ => exact isBlock_interfaceBlock _ _
  | policy _ => exact isBlock_policyBlock _
  | route _ => exact isBlock_routeBlock _ _

/-! ## Listings -/

theorem interfaceSection_eq {name : String} {i : Interface}
    (h : d.interfaces.find? name = some i) :
    interfaceSection d (some name) = sectionBlock interfaces [interfaceBlock name i] := by
  have hone : d.interfaces.entries.filter (fun e => name == e.1) = [(name, i)] :=
    SortedMap.filter_key_eq d.interfaces.nodup_keys (SortedMap.mem_entries_iff.mpr h)
  exact congrArg (fun l => sectionBlock interfaces (l.map fun e => interfaceBlock e.1 e.2)) hone

theorem policySection_eq (hids : (d.policies.map Policy.id).Nodup) {p : Policy}
    (h : p ∈ d.policies) :
    policySection d (some (toString p.id)) = sectionBlock policies [policyBlock p] := by
  have hkeys : (d.policies.map fun q => toString q.id).Nodup :=
    List.pairwise_map.mpr ((List.pairwise_map.mp hids).imp fun hne heq =>
      hne (Text.toString_uint32_inj.mp heq))
  have hone : d.policies.filter (fun q => toString p.id == toString q.id) = [p] :=
    SortedMap.filter_key_eq hkeys h
  exact congrArg (fun l => sectionBlock policies (l.map policyBlock)) hone

theorem routeSection_eq {n : Nat} {r : Route} (h : d.routes[n]? = some r) :
    routeSection d (some (toString (n + 1))) =
      sectionBlock staticRoutes [routeBlock (toString (n + 1)) r] := by
  let entries := d.routes.mapIdx fun m r => (toString (m + 1), r)
  have hkeys : (entries.map Prod.fst).Nodup := by
    rw [List.Nodup, List.pairwise_map, List.pairwise_iff_getElem]
    intro i j hi hj hij heq
    simp only [entries, List.getElem_mapIdx, Text.toString_nat_inj] at heq
    omega
  have hentry : (toString (n + 1), r) ∈ entries := by
    obtain ⟨hn, rfl⟩ := List.getElem?_eq_some_iff.mp h
    exact List.mem_mapIdx.mpr ⟨n, hn, rfl⟩
  have hone : entries.filter (fun e => toString (n + 1) == e.1) = [(toString (n + 1), r)] :=
    SortedMap.filter_key_eq hkeys hentry
  exact congrArg (fun l => sectionBlock staticRoutes (l.map fun e => routeBlock e.1 e.2)) hone

/-- The listing of an object has one block, and this is the object's. -/
theorem showOpen_of_names {k : ObjectKind} {name : String} (hids : (d.policies.map Policy.id).Nodup)
    (hcontext : d.context = [⟨k.frameKind, name⟩, ⟨.configSection, k.home⟩])
    (h : k.Names d name) :
    ∃ block, ObjectBlock d ⟨k.frameKind, name⟩ block ∧
      showOpen d = sectionBlock k.home [block] := by
  cases k with
  | interface =>
    have hshow : showOpen d = interfaceSection d (some name) := by
      rw [showOpen, frame?, hcontext]
      rfl
    obtain ⟨i, hi⟩ := Option.isSome_iff_exists.mp h
    exact ⟨_, .interface hi, hshow.trans (interfaceSection_eq hi)⟩
  | policy =>
    obtain ⟨id, rfl, hid⟩ := h
    have hshow : showOpen d = policySection d (some (toString id)) := by
      rw [showOpen, frame?, hcontext]
      rfl
    have hmem : id ∈ d.policies.map Policy.id := List.count_pos_iff.mp (by omega)
    obtain ⟨p, hp, rfl⟩ := List.mem_map.mp hmem
    exact ⟨_, .policy hp, hshow.trans (policySection_eq hids hp)⟩
  | route =>
    obtain ⟨n, rfl, hone, hn⟩ := h
    have hshow : showOpen d = routeSection d (some (toString n)) := by
      rw [showOpen, frame?, hcontext]
      rfl
    obtain ⟨m, rfl⟩ : ∃ m, n = m + 1 := ⟨n - 1, by omega⟩
    have hr := List.getElem?_eq_getElem (l := d.routes) (i := m) (by omega)
    exact ⟨_, .route hr, hshow.trans (routeSection_eq hr)⟩

/-- In an object, the line `show` lists it. -/
theorem verdict?_show {k : ObjectKind} {name line : String}
    (hcontext : d.context = [⟨k.frameKind, name⟩, ⟨.configSection, k.home⟩])
    (hline : Text.words line = ["show"]) :
    dialect.verdict? line d = some (.done (.command .showOpen)) := by
  rw [dialect.verdict?_of_words d hline (by decide) (by decide), hcontext]
  cases k <;> rfl

/-! ## Runs -/

/-- **Editing on FortiOS.** Start at the top of the hierarchy, with no two policies of one id and
    nothing staged. Then, after any lines and edits,
    * the stack is empty, a section, or an object of the device in its section;
    * a setting that the table takes finds the object it is for;
    * in an object, `show` and whatever else lists it print one block, which is the object's. -/
theorem nesting_invariant (d : Device) (hfamily : d.family = .fortinet) (htop : d.context = [])
    (hlive : d.candidate = none) (hids : (d.policies.map Policy.id).Nodup)
    (actions : List (Inventory × Action)) :
    let r := d.run actions
    Nesting r r.context ∧
    (∀ line c k, dialect.verdict? line r = some (.done (.command c)) → c.sets? = some k →
      Found k (Dialect.echo line r)) ∧
    (∀ object parent, r.context = [object, parent] →
      (∀ line, Text.words line = ["show"] →
        dialect.verdict? line r = some (.done (.command .showOpen))) ∧
      ∃ block, IsBlock block ∧ ObjectBlock r object block ∧
        ∀ devices line, dialect.verdict? line r = some (.done (.command .showOpen)) →
          r.interpret devices line =
            (Dialect.echo line r).logAll (["config " ++ parent.name] ++ block ++ ["end"])) := by
  intro r
  have hstart : Nested d := ⟨htop ▸ .top, hids, hlive⟩
  have hr : Nested r := nested_runAll hstart hfamily actions
  refine ⟨hr.context, ?_, ?_⟩
  · intro line c k hv hk
    have hecho : Nested (Dialect.echo line r) := hr.keep (.logged r _)
    obtain ⟨_, hc, hadmitted⟩ := admitted_of_done (Dialect.dispatch_of_verdict? hv)
    cases hc
    obtain ⟨name, hcontext, hnames⟩ := hecho.context.eq_of_inObject (hadmitted.sets k hk)
    exact found_of_names hcontext hnames
  · intro object parent hcontext
    have hnesting := hr.context
    rw [hcontext] at hnesting
    cases hnesting with
    | @object k _ hnames =>
      refine ⟨fun line hline => verdict?_show hcontext hline, ?_⟩
      obtain ⟨block, hblock, hshow⟩ := showOpen_of_names hr.ids hcontext hnames
      refine ⟨block, hblock.isBlock, hblock, fun devices line hv => ?_⟩
      have hfortinet : r.family = .fortinet := (d.family_run actions).trans hfamily
      unfold Device.interpret
      rw [hfortinet]
      have hlines : showOpen r = ["config " ++ k.home] ++ block ++ ["end"] := by
        rw [hshow, sectionBlock, List.flatten_singleton]
      exact (Dialect.interpret_of_some hv _ devices).trans
        (congrArg (Dialect.echo line r).logAll hlines)

/-- A route is made at the end, and is still the one that is edited there after another was deleted
    before it and the rest were renumbered. -/
theorem nesting_invariant_renumbered :
    let d : Device := { id := "fw", name := "fw", kind := .firewall, vendor := .fortinet }
    let lines : List String :=
      ["config router static", "edit 7", "next", "edit 9", "next", "delete 1", "edit 2"]
    let r := d.run (lines.map fun text => (SortedMap.empty, .line text))
    r.context = [⟨.staticRoute, "2"⟩, ⟨.configSection, "router static"⟩] ∧
      Nesting r r.context ∧ Found .route (Dialect.echo "set gateway 10.0.0.1" r) ∧
      ∃ block, IsBlock block ∧ ObjectBlock r ⟨.staticRoute, "2"⟩ block ∧
        r.interpret SortedMap.empty "show" =
          (Dialect.echo "show" r).logAll (["config router static"] ++ block ++ ["end"]) := by
  intro d lines r
  have hcontext : r.context = [⟨.staticRoute, "2"⟩, ⟨.configSection, "router static"⟩] := by
    decide +kernel
  obtain ⟨hnesting, hfound, hshow⟩ := nesting_invariant d rfl rfl rfl List.nodup_nil
    (lines.map fun text => (SortedMap.empty, .line text))
  obtain ⟨hverdict, block, hform, hblock, hprinted⟩ := hshow _ _ hcontext
  refine ⟨hcontext, hnesting, hfound "set gateway 10.0.0.1" (.setGateway "10.0.0.1") .route ?_ rfl,
    block, hform, hblock, hprinted _ _ (hverdict "show" (by decide))⟩
  decide +kernel

end TrainingLab.FortiOs
