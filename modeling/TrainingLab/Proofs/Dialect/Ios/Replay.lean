import TrainingLab.Proofs.Dialect.Ios.Coherence
import TrainingLab.Proofs.Dialect.Ios.Inspection

/-
  The running configuration of IOS is a program for the console that makes it. Entered in the
  configuration mode of a fresh device, its lines up to the routes leave the console in the last
  block; from there one has to go back to the configuration mode for the routes.

  The access VLANs are what bounds this. One that is not in the database is made once more when the
  interface is entered.

  Proved:
  * `config_navigation`, `exists_toConfig`: the lines that move the console change nothing else, and
    take it everywhere.
  * `leads_body`, `leads_routeLines`: what the configuration does block by block.
  * `beforeRoutes_eq`, `routeLines_eq`: which lines are before the routes, and which are the routes.
  * `runningConfig_replay`: a run of lines, the configuration, and another device.
-/

namespace TrainingLab.Ios

open Grammar Device

/-! ## Moving about -/

/-- The lines that move the console from one mode to another. -/
def navigation : List String := ["exit", "end", "enable", "configure terminal"]

/-- The first words of these lines. -/
def navigationWords : List String := ["exit", "end", "enable", "configure"]

/-- The command moves the console. -/
def Command.navigates : Command → Bool
  | exit => true
  | leave => true
  | enable => true
  | configure => true
  | _ => false

theorem config_run_of_navigates {c : Command} (h : c.navigates = true) (devices : Inventory)
    (d : Device) : (c.run devices d).config = d.config := by
  cases c with
  | exit => exact config_exitMode d
  | leave =>
    rw [Command.run]
    split <;> rfl
  | enable | configure => rfl
  | _ => cases h

theorem table_navigation :
    ∀ r ∈ table, (∀ word ∈ navigationWords, r.pattern.opensWith word = false) ∨
      ∀ caps, ∃ c, r.meaning caps = .command c ∧ c.navigates = true := by
  let words : List (List Char) :=
    [['e', 'x', 'i', 't'], ['e', 'n', 'd'], ['e', 'n', 'a', 'b', 'l', 'e'],
      ['c', 'o', 'n', 'f', 'i', 'g', 'u', 'r', 'e']]
  have hwords : navigationWords = words.map String.ofList := rfl
  simp only [hwords, table, List.forall_mem_cons]
  repeat first
    | apply And.intro (Or.inr fun _ => ⟨_, rfl, rfl⟩)
    | apply And.intro (Or.inl (not_opensWith_ofChars words (by decide)))
  exact List.forall_mem_nil _

/-- The lines that move the console change nothing else. -/
theorem config_navigation {d : Device} (hfamily : d.family = .cisco)
    {lines : List (Inventory × String)} (hlines : ∀ l ∈ lines, l.2 ∈ navigation) :
    (d.enterLines lines).config = d.config := by
  have hfirst : ∀ line ∈ navigation, ∃ word ∈ navigationWords,
      (Text.words line).head? = some word ∧ Text.lower word = word := by decide
  refine Dialect.kept_lines_of (P := fun e => e.config = d.config) (· ∈ navigation) ?_ hfamily rfl
    hlines
  intro e hfamily he devices line hline
  obtain ⟨word, hword, hhead, hlower⟩ := hfirst line hline
  obtain ⟨rest, hwords⟩ := List.head?_eq_some_iff.mp hhead
  obtain ⟨help, hinterpret⟩ := speaks hfamily
  rw [hinterpret]
  refine Dialect.kept_of_word (P := fun e => e.config = d.config)
    (fun text h => (config_log _ text).trans h) ?_ hwords he help devices
  intro r hr hopens caps
  rcases table_navigation r hr with hno | hmoves
  · rw [hlower, hno word hword] at hopens
    cases hopens
  · obtain ⟨c, hc, hnavigates⟩ := hmoves caps
    exact ⟨c, hc, fun devices d h => (config_run_of_navigates hnavigates devices d).trans h⟩

section Moving

variable {d : Device}

theorem leads_enable (hfamily : d.family = .cisco) (hmode : d.mode = .user) :
    Leads ["enable"] d (d.enter .privileged) := by
  have hwords : Text.words "enable" = ["enable"] := by decide
  have hdispatch : dispatch d.mode d.context ["enable"] table = .done (.command .enable) := by
    rw [hmode]
    rfl
  exact leads_of_command hfamily hwords (by decide) (by decide) hdispatch rfl

theorem leads_configure (hfamily : d.family = .cisco) (hmode : d.mode = .privileged) :
    Leads ["configure terminal"] d (d.enter .config) := by
  have hwords : Text.words "configure terminal" = ["configure", "terminal"] := by decide
  have hdispatch : dispatch d.mode d.context ["configure", "terminal"] table =
      .done (.command .configure) := by
    rw [hmode]
    rfl
  have hleads : Leads ["configure terminal"] d (Command.run SortedMap.empty .configure d) :=
    leads_of_command hfamily hwords (by decide) (by decide) hdispatch rfl
  exact hleads

theorem leads_leave (hfamily : d.family = .cisco) (hmode : d.mode ∈ configModes) :
    Leads ["end"] d ((d.within []).enter .privileged) := by
  have hwords : Text.words "end" = ["end"] := by decide
  have hdispatch : dispatch d.mode d.context ["end"] table = .done (.command .leave) :=
    of_mem_configModes (P := fun mode => dispatch mode d.context ["end"] table =
      .done (.command .leave)) hmode rfl rfl rfl rfl
  have huser : d.mode ≠ .user := by
    intro huser
    rw [huser] at hmode
    exact absurd hmode (by decide)
  have hrun : Command.run SortedMap.empty .leave d = (d.within []).enter .privileged := by
    rw [Command.run, if_neg huser]
  exact leads_of_command hfamily hwords (by decide) (by decide) hdispatch hrun

/-- The lines do nothing but move the console of the device into the mode. -/
structure MovesTo (mode : Mode) (d : Device) (lines : List (Inventory × String)) : Prop where
  moves : ∀ l ∈ lines, l.2 ∈ navigation
  mode : (d.enterLines lines).mode = mode

theorem MovesTo.of_leads {lines : List String} {e : Device} (h : Leads lines d e)
    (hlines : ∀ line ∈ lines, line ∈ navigation) :
    MovesTo e.mode d (lines.map fun line => (SortedMap.empty, line)) where
  moves := List.forall_mem_map.mpr hlines
  mode := by
    refine eq_of_forget Device.mode (fun _ => rfl) (h.enterLines ?_)
    rw [List.map_map]
    exact List.map_id _

theorem MovesTo.trans {mode mode' : Mode} {lines more : List (Inventory × String)}
    (h : MovesTo mode d lines) (h' : MovesTo mode' (d.enterLines lines) more) :
    MovesTo mode' d (lines ++ more) where
  moves := List.forall_mem_append.mpr ⟨h.moves, h'.moves⟩
  mode := by
    rw [enterLines, List.map_append, run_append]
    exact h'.mode

/-- From everywhere there is a way to the privileged mode. -/
theorem exists_toPrivileged (hfamily : d.family = .cisco) (hmode : d.mode ∈ dialect.modes) :
    ∃ lines, MovesTo .privileged d lines := by
  rcases List.mem_append.mp hmode with hexec | hconfig
  · simp only [execModes, List.mem_cons, List.not_mem_nil, or_false] at hexec
    rcases hexec with huser | hprivileged
    · exact ⟨_, .of_leads (leads_enable hfamily huser) (by decide)⟩
    · exact ⟨[], List.forall_mem_nil _, hprivileged⟩
  · exact ⟨_, .of_leads (leads_leave hfamily hconfig) (by decide)⟩

/-- From everywhere there is a way to the configuration mode. -/
theorem exists_toConfig (hfamily : d.family = .cisco) (hmode : d.mode ∈ dialect.modes) :
    ∃ lines, MovesTo .config d lines := by
  obtain ⟨lines, hlines⟩ := exists_toPrivileged hfamily hmode
  have hconfigure := leads_configure ((d.family_run _).trans hfamily) hlines.mode
  exact ⟨_, hlines.trans (.of_leads hconfigure (by decide))⟩

end Moving

/-! ## Entering the configuration -/

section Entering

variable {d : Device}

theorem family_of_config {e : Device} (h : e.config = d.config) : e.family = d.family :=
  eq_of_config Device.family (fun _ => rfl) h

/-- The blocks of VLANs. Which one the console is in afterwards does not matter. -/
theorem leads_vlanBlocks (hfamily : d.family = .cisco) (hmode : d.mode ∈ configModes)
    (entries : List (UInt16 × String))
    (hlisted : ∀ x ∈ entries, ValidVlan x.1 ∧ Text.IsWord x.2) :
    ∃ e, Leads (entries.flatMap fun x => vlanBlock x.1 x.2) d e ∧ e.mode ∈ configModes ∧
      e.config = { d with vlans := d.vlans.insertAll entries }.config := by
  induction entries generalizing d with
  | nil => exact ⟨d, .nil d, hmode, rfl⟩
  | cons x rest ih =>
    obtain ⟨⟨hv, hname⟩, hrest⟩ := List.forall_mem_cons.mp hlisted
    have hin : (inVlan d x.1 x.2).mode ∈ configModes :=
      show Mode.configVlan ∈ configModes by decide
    obtain ⟨e, hleads, he, hconfig⟩ := ih (d := inVlan d x.1 x.2) hfamily hin hrest
    exact ⟨e, (leads_vlanBlock hfamily hmode hv hname).append hleads, he, hconfig⟩

/-- The blocks of interfaces, none of which is there before, while all their access VLANs are. -/
theorem leads_interfaceBlocks (hfamily : d.family = .cisco) (hmode : d.mode ∈ configModes)
    (entries : List (String × Interface))
    (hlisted : ∀ x ∈ entries, Text.IsWord x.1 ∧ ListableInterface x.2)
    (hvlans : ∀ x ∈ entries, ∀ v, x.2.vlan = some v → ValidVlan v ∧ d.vlans.contains v = true)
    (hnodup : (entries.map Prod.fst).Nodup)
    (hnew : ∀ x ∈ entries, d.interfaces.find? x.1 = none) :
    ∃ e, Leads (entries.flatMap fun x => interfaceBlock x.1 x.2) d e ∧ e.mode ∈ configModes ∧
      e.config = { d with interfaces := d.interfaces.insertAll entries }.config := by
  induction entries generalizing d with
  | nil => exact ⟨d, .nil d, hmode, rfl⟩
  | cons x rest ih =>
    obtain ⟨⟨hname, hi⟩, hrest⟩ := List.forall_mem_cons.mp hlisted
    obtain ⟨hxvlan, hrestvlans⟩ := List.forall_mem_cons.mp hvlans
    obtain ⟨hxnew, hrestnew⟩ := List.forall_mem_cons.mp hnew
    obtain ⟨hxkey, hrestkeys⟩ := List.nodup_cons.mp hnodup
    have hin : (inInterface d x.1 x.2).mode ∈ configModes :=
      show Mode.configInterface ∈ configModes by decide
    have hstillnew : ∀ y ∈ rest, (inInterface d x.1 x.2).interfaces.find? y.1 = none := by
      intro y hy
      have hne : y.1 ≠ x.1 := fun heq => hxkey (heq ▸ List.mem_map_of_mem hy)
      show (d.interfaces.insert x.1 x.2).find? y.1 = none
      rw [SortedMap.find?_insert, if_neg hne]
      exact hrestnew y hy
    obtain ⟨e, hleads, he, hconfig⟩ := ih (d := inInterface d x.1 x.2) hfamily hin hrest
      hrestvlans hrestkeys hstillnew
    exact ⟨e, (leads_interfaceBlock hfamily hmode hname hxnew hi hxvlan).append hleads, he, hconfig⟩

/-- The lines of routes, none of which is there before. -/
theorem leads_routeLines (hfamily : d.family = .cisco) (hmode : d.mode = .config)
    {routes : List Route} (hlisted : ∀ r ∈ routes, ListableRoute r) (hnodup : routes.Nodup)
    (hnew : ∀ r ∈ routes, r ∉ d.routes) :
    Leads (routes.map routeLine) d { d with routes := d.routes ++ routes } := by
  induction routes generalizing d with
  | nil =>
    rw [List.append_nil]
    exact .nil d
  | cons r rest ih =>
    obtain ⟨hr, hrest⟩ := List.forall_mem_cons.mp hlisted
    obtain ⟨hrnew, hrestnew⟩ := List.forall_mem_cons.mp hnew
    obtain ⟨hrother, hrestnodup⟩ := List.nodup_cons.mp hnodup
    have hstillnew : ∀ s ∈ rest, s ∉ d.routes ++ [r] := by
      intro s hs hmem
      rcases List.mem_append.mp hmem with hold | hlast
      · exact hrestnew s hs hold
      · exact hrother (List.mem_singleton.mp hlast ▸ hs)
    rw [List.append_cons]
    exact (leads_routeLine hfamily hmode hr hrnew).append
      (ih (d := { d with routes := d.routes ++ [r] }) hfamily hmode hrest hrestnodup hstillnew)

/-- The lines in front of the blocks. -/
def header (name : String) : List String :=
  ["Building configuration...", "", "Current configuration:", "!", "hostname " ++ name, "!"]

/-- The lines up to the routes. -/
def body (r : Device) : List String :=
  header r.name ++ r.vlans.entries.flatMap (fun x => vlanBlock x.1 x.2) ++
    r.interfaces.entries.flatMap fun x => interfaceBlock x.1 x.2

theorem runningConfig_eq (r : Device) :
    runningConfig r = body r ++ r.routes.map routeLine ++ ["!", "end"] := rfl

/-- Every interface is in a VLAN of the database, if it is in one. -/
def AccessListed (d : Device) : Prop :=
  ∀ name i v, d.interfaces.find? name = some i → i.vlan = some v → d.vlans.contains v = true

theorem accessListed_iff (d : Device) :
    (d.interfaces.entries.all fun x => x.2.vlan.all d.vlans.contains) = true ↔
      AccessListed d := by
  simp only [List.all_eq_true, Option.all_eq_true]
  exact ⟨fun h name i v hi => h (name, i) (SortedMap.mem_entries_iff.mpr hi) v,
    fun h x hx v => h x.1 x.2 v (SortedMap.mem_entries_iff.mp hx)⟩

-- a quantifier over the numbers of VLANs would be decided for all of them in turn
instance (d : Device) : Decidable (AccessListed d) :=
  decidable_of_iff _ (accessListed_iff d)

/-- The lines up to the routes, in the configuration mode of a device without VLANs and
    interfaces. -/
theorem leads_body {r : Device} (hr : Listable r) (hvalid : ValidVlans r)
    (haccess : AccessListed r) (hfamily : d.family = .cisco) (hmode : d.mode = .config)
    (hvlans : d.vlans = SortedMap.empty) (hinterfaces : d.interfaces = SortedMap.empty) :
    ∃ e, Leads (body r) d e ∧ e.mode ∈ configModes ∧
      e.config =
        { d with name := r.name, vlans := r.vlans, interfaces := r.interfaces }.config := by
  let named : Device := { d with name := r.name }
  have hnamedvlans : named.vlans.insertAll r.vlans.entries = r.vlans := by
    have hempty : named.vlans = SortedMap.empty := hvlans
    rw [hempty, SortedMap.insertAll_entries]
  have hnamedmode : named.mode ∈ configModes := by
    have hsame : named.mode = .config := hmode
    rw [hsame]
    decide
  have hheader : Leads (header r.name) d named :=
    ((leads_title hfamily).append (leads_hostname hfamily hmode (hr.name trivial))).append
      (leads_mark (d := named) hfamily)
  obtain ⟨listed, hleads, hmode', hconfig⟩ := leads_vlanBlocks (d := named)
    hfamily hnamedmode r.vlans.entries fun x hx => by
      have hfind := SortedMap.mem_entries_iff.mp hx
      have hthere : r.vlans.contains x.1 = true := SortedMap.contains_of_find? hfind
      exact ⟨hvalid.listed x.1 hthere, hr.vlans x.1 x.2 hfind⟩
  rw [hnamedvlans] at hconfig
  have hlistedfamily : listed.family = .cisco := (family_of_config hconfig).trans hfamily
  have hlistedvlans : listed.vlans = r.vlans :=
    eq_of_config (e := { named with vlans := r.vlans }) Device.vlans (fun _ => rfl) hconfig
  have hlistedinterfaces : listed.interfaces = SortedMap.empty :=
    (eq_of_config Device.interfaces (fun _ => rfl) hconfig).trans hinterfaces
  obtain ⟨e, hleads', hmode'', hconfig'⟩ := leads_interfaceBlocks (d := listed)
    hlistedfamily hmode' r.interfaces.entries
    (fun x hx => hr.interfaces x.1 x.2 (SortedMap.mem_entries_iff.mp hx))
    (fun x hx v hv => by
      have hfind := SortedMap.mem_entries_iff.mp hx
      exact ⟨hvalid.access x.1 x.2 v hfind hv, hlistedvlans ▸ haccess x.1 x.2 v hfind hv⟩)
    r.interfaces.nodup_keys
    (fun x _ => by rw [hlistedinterfaces, SortedMap.find?_empty])
  rw [hlistedinterfaces, SortedMap.insertAll_entries] at hconfig'
  have hboth : { listed with interfaces := r.interfaces }.config =
      { d with name := r.name, vlans := r.vlans, interfaces := r.interfaces }.config :=
    eq_of_config (fun x => { x with interfaces := r.interfaces }.config) (fun _ => rfl) hconfig
  exact ⟨e, (hheader.append hleads).append hleads', hmode'', hconfig'.trans hboth⟩

end Entering

/-! ## The lines of the configuration -/

/-- The line is that of a route. -/
def isRouteLine (line : String) : Bool := Text.begins "ip route" line

/-- The lines before the first route. -/
def beforeRoutes (listing : List String) : List String :=
  listing.takeWhile fun line => !isRouteLine line

/-- The lines of the routes. -/
def routeLines (listing : List String) : List String := listing.filter isRouteLine

theorem isRouteLine_routeLine (r : Route) : isRouteLine (routeLine r) = true := by
  have hstart : Text.begins "ip route" "ip route " = true := by decide
  unfold isRouteLine routeLine
  exact Text.begins_append (Text.begins_append (Text.begins_append (Text.begins_append
    (Text.begins_append hstart _) _) _) _) _

/-- A line that begins otherwise is none. -/
theorem not_isRouteLine_append {start : String}
    (h : Text.begins "ip route" start = false ∧ Text.begins start "ip route" = false)
    (t : String) : isRouteLine (start ++ t) = false :=
  Text.not_begins_append h.1 h.2 t

theorem not_isRouteLine_vlanBlock (v : UInt16) (name : String) :
    ∀ line ∈ vlanBlock v name, isRouteLine line = false := by
  unfold vlanBlock
  simp only [List.forall_mem_cons]
  exact ⟨not_isRouteLine_append (by decide) _, not_isRouteLine_append (by decide) _, by decide,
    List.forall_mem_nil _⟩

theorem not_isRouteLine_interfaceBlock (name : String) (i : Interface) :
    ∀ line ∈ interfaceBlock name i, isRouteLine line = false := by
  have helim : ∀ {α : Type} {o : Option α} {line : α → String},
      (∀ a, isRouteLine (line a) = false) →
      ∀ text ∈ o.elim [] fun a => [line a], isRouteLine text = false := by
    intro α o line hline
    cases o with
    | none => exact List.forall_mem_nil _
    | some a => exact List.forall_mem_singleton.mpr (hline a)
  rw [interfaceBlock_eq]
  simp only [List.forall_mem_append, List.forall_mem_singleton]
  refine ⟨⟨⟨⟨⟨⟨?_, ?_⟩, ?_⟩, ?_⟩, ?_⟩, ?_⟩, by decide⟩
  · exact not_isRouteLine_append (by decide) name
  · exact helim fun text => not_isRouteLine_append (by decide) text
  · exact helim fun v => not_isRouteLine_append (by decide) (toString v)
  · exact helim fun zone => not_isRouteLine_append (by decide) zone
  · split
    next => decide
    next =>
      have haddress : isRouteLine (" ip address " ++ (i.ip ++ (" " ++ i.dottedMask))) = false :=
        not_isRouteLine_append (by decide) _
      rwa [← String.append_assoc, ← String.append_assoc] at haddress
  · split
    next => exact List.forall_mem_nil _
    next => exact List.forall_mem_singleton.mpr (by decide)

theorem not_isRouteLine_body (r : Device) : ∀ line ∈ body r, isRouteLine line = false := by
  unfold body header
  simp only [List.forall_mem_append, List.forall_mem_cons, List.forall_mem_flatMap]
  refine ⟨⟨⟨by decide, by decide, by decide, by decide, ?_, by decide, List.forall_mem_nil _⟩,
    fun x _ => not_isRouteLine_vlanBlock x.1 x.2⟩,
    fun x _ => not_isRouteLine_interfaceBlock x.1 x.2⟩
  exact not_isRouteLine_append (by decide) r.name

/-- Without routes, all lines are before them. -/
theorem beforeRoutes_eq (r : Device) : beforeRoutes (runningConfig r) =
    if r.routes = [] then body r ++ ["!", "end"] else body r := by
  have hbody : ∀ line ∈ body r, (!isRouteLine line) = true := fun line hline => by
    rw [not_isRouteLine_body r line hline]
    rfl
  rw [beforeRoutes, runningConfig_eq, List.append_assoc, List.takeWhile_append_of_pos hbody]
  cases hroutes : r.routes with
  | nil => rfl
  | cons first rest =>
    have hfirst : ¬ (!isRouteLine (routeLine first)) = true := by
      rw [isRouteLine_routeLine]
      decide
    rw [List.map_cons, List.cons_append,
      List.takeWhile_cons_of_neg (p := fun line => !isRouteLine line) hfirst, List.append_nil,
      if_neg (List.cons_ne_nil first rest)]

theorem routeLines_eq (r : Device) : routeLines (runningConfig r) = r.routes.map routeLine := by
  have hbody : (body r).filter isRouteLine = [] :=
    List.filter_eq_nil_iff.mpr fun line hline => by
      rw [not_isRouteLine_body r line hline]
      decide
  have hroutes : (r.routes.map routeLine).filter isRouteLine = r.routes.map routeLine :=
    List.filter_eq_self.mpr (List.forall_mem_map.mpr fun route _ => isRouteLine_routeLine route)
  have hend : ["!", "end"].filter isRouteLine = [] := by decide
  rw [routeLines, runningConfig_eq, List.filter_append, List.filter_append, hbody, hroutes, hend,
    List.nil_append, List.append_nil]

/-! ## Printing the configuration -/

theorem feed_not_mem_interfaceBlock {name : String} {i : Interface} (hname : Text.IsWord name)
    (hi : ListableInterface i) : ∀ line ∈ interfaceBlock name i, '\n' ∉ line.toList := by
  have helim : ∀ {α : Type} {o : Option α} {line : α → String},
      (∀ a, o = some a → '\n' ∉ (line a).toList) →
      ∀ text ∈ o.elim [] fun a => [line a], '\n' ∉ text.toList := by
    intro α o line hline
    cases o with
    | none => exact List.forall_mem_nil _
    | some a => exact List.forall_mem_singleton.mpr (hline a rfl)
  rw [interfaceBlock_eq]
  simp only [List.forall_mem_append, List.forall_mem_singleton]
  refine ⟨⟨⟨⟨⟨⟨?_, ?_⟩, ?_⟩, ?_⟩, ?_⟩, ?_⟩, by decide⟩
  · exact Text.feed_not_mem_append (by decide) hname.1.feed_not_mem
  · exact helim fun text h =>
      Text.feed_not_mem_append (by decide) (hi.description text h).1.feed_not_mem
  · exact helim fun v _ =>
      Text.feed_not_mem_append (by decide) (Text.feed_not_mem_toString v.toNat)
  · exact helim fun zone h =>
      Text.feed_not_mem_append (by decide) (hi.zone zone h).1.feed_not_mem
  · rcases hi.address with ⟨hip, _⟩ | ⟨net, hip, hmask⟩
    · rw [hip]
      show '\n' ∉ " no ip address".toList
      decide
    · have hne : (i.ip == "") = false := by
        rw [beq_eq_false_iff_ne, hip]
        exact ne_empty_of_accepts (by decide) (accepts_address net.address)
      rw [hne, if_neg Bool.false_ne_true, dottedMask_of_net hip hmask, hip]
      exact Text.feed_not_mem_append (Text.feed_not_mem_append (Text.feed_not_mem_append
        (by decide) net.address.unbroken_toText.feed_not_mem) (by decide))
        net.mask.unbroken_toText.feed_not_mem
  · split
    next => exact List.forall_mem_nil _
    next => exact List.forall_mem_singleton.mpr (by decide)

theorem feed_not_mem_routeLine {r : Route} (hr : ListableRoute r) :
    '\n' ∉ (routeLine r).toList := by
  obtain ⟨net, nextHop, hnet, rfl⟩ := hr
  rw [routeLine, Network.networkAndMask_toText hnet]
  exact Text.feed_not_mem_append (Text.feed_not_mem_append (Text.feed_not_mem_append
    (Text.feed_not_mem_append (Text.feed_not_mem_append (by decide)
      net.address.unbroken_toText.feed_not_mem) (by decide))
      net.mask.unbroken_toText.feed_not_mem) (by decide)) nextHop.unbroken_toText.feed_not_mem

theorem feed_not_mem_runningConfig {r : Device} (hr : Listable r) :
    ∀ line ∈ runningConfig r, '\n' ∉ line.toList := by
  rw [runningConfig_eq, body, header]
  simp only [List.forall_mem_append, List.forall_mem_cons, List.forall_mem_flatMap,
    List.forall_mem_map]
  refine ⟨⟨⟨⟨⟨by decide, by decide, by decide, by decide, ?_, by decide, List.forall_mem_nil _⟩,
    fun x hx => ?_⟩, fun x hx => ?_⟩, fun route hroute => ?_⟩, by decide, by decide,
    List.forall_mem_nil _⟩
  · exact Text.feed_not_mem_append (by decide) (hr.name trivial).1.feed_not_mem
  · have hname := hr.vlans x.1 x.2 (SortedMap.mem_entries_iff.mp hx)
    unfold vlanBlock
    simp only [List.forall_mem_cons]
    exact ⟨Text.feed_not_mem_append (by decide) (Text.feed_not_mem_toString x.1.toNat),
      Text.feed_not_mem_append (by decide) hname.1.feed_not_mem, by decide,
      List.forall_mem_nil _⟩
  · obtain ⟨hname, hi⟩ := hr.interfaces x.1 x.2 (SortedMap.mem_entries_iff.mp hx)
    exact feed_not_mem_interfaceBlock hname hi
  · exact feed_not_mem_routeLine (hr.routes route hroute)

theorem dispatch_showRunningConfig :
    dispatch .privileged [] ["show", "running-config"] table =
      .done (.command .showRunningConfig) := by
  decide +kernel

/-- In the privileged mode, the line that asks for the running configuration prints it. -/
theorem history_showRunningConfig {r : Device} (hr : Listable r) (hfamily : r.family = .cisco)
    (hmode : r.mode = .privileged) (devices : Inventory) :
    (r.interpret devices "show running-config").history =
      (Dialect.echo "show running-config" r).history ++ runningConfig r := by
  have hwords : Text.words "show running-config" = ["show", "running-config"] := by decide
  exact history_of_asks hfamily (.directly hmode hwords) (by decide) (by decide)
    dispatch_showRunningConfig runningConfig (fun _ => rfl) devices (fun _ => rfl)
    (feed_not_mem_runningConfig hr)

/-! ## Replay -/

/-- A device of the family on which nothing is configured, with its console in the user mode. -/
structure Unconfigured (d : Device) : Prop where
  family : d.family = .cisco
  mode : d.mode = .user
  context : d.context = []
  interfaces : d.interfaces = SortedMap.empty
  vlans : d.vlans = SortedMap.empty
  routes : d.routes = []
  candidate : d.candidate = none

namespace Unconfigured

variable {d : Device}

theorem listable_of {named : Prop} (h : Unconfigured d) (hname : named → Text.IsWord d.name) :
    Listable d named where
  name := hname
  interfaces := fun name i hi => by
    rw [h.interfaces, SortedMap.find?_empty] at hi
    cases hi
  vlans := fun v name hv => by
    rw [h.vlans, SortedMap.find?_empty] at hv
    cases hv
  routes := h.routes ▸ List.forall_mem_nil _
  distinct := h.routes ▸ List.nodup_nil
  frames := h.context ▸ List.forall_mem_nil _

theorem listable (h : Unconfigured d) (hname : Text.IsWord d.name) : Listable d :=
  h.listable_of fun _ => hname

theorem coherent (h : Unconfigured d) : Coherent d where
  position := h.mode ▸ h.context ▸ .user
  vlans := by
    refine ⟨fun v hv => ?_, fun name i v hi => ?_⟩
    · rw [h.vlans, SortedMap.contains, SortedMap.find?_empty] at hv
      cases hv
    · rw [h.interfaces, SortedMap.find?_empty] at hi
      cases hi
  live := h.candidate

end Unconfigured

/-- The lines before the first route, in the configuration mode of another device. -/
theorem leads_beforeRoutes {r d : Device} (hr : Listable r) (hvalid : ValidVlans r)
    (haccess : AccessListed r) (hfamily : d.family = .cisco) (hmode : d.mode = .config)
    (hvlans : d.vlans = SortedMap.empty) (hinterfaces : d.interfaces = SortedMap.empty) :
    ∃ e, Leads (beforeRoutes (runningConfig r)) d e ∧
      e.config =
        { d with name := r.name, vlans := r.vlans, interfaces := r.interfaces }.config := by
  obtain ⟨e, hleads, hlast, hconfig⟩ := leads_body hr hvalid haccess hfamily hmode hvlans
    hinterfaces
  rw [beforeRoutes_eq]
  split
  next =>
    have he : e.family = .cisco := (family_of_config hconfig).trans hfamily
    exact ⟨_, hleads.append ((leads_mark he).append (leads_leave he hlast)), hconfig⟩
  next => exact ⟨e, hleads, hconfig⟩

/-- **Replay on IOS.** Start with two devices of the family on which nothing is configured, one of
    them under a name that is a word. Enter any lines on it, as long as no interface ends up in a
    VLAN that is not in the database. Then
    * there is a way to the privileged mode, and whatever way is taken, `show running-config` prints
      the configuration;
    * there is a way to the configuration mode of the other device, and from there, once the lines
      before the first route are entered, a way back;
    * whatever ways are taken, entering the lines before the first route and then, after the way
      back, those of the routes gives the other device the name, the VLANs, the interfaces and the
      routes of the first. -/
theorem runningConfig_replay (d e : Device) (hd : Unconfigured d) (he : Unconfigured e)
    (hname : Text.IsWord d.name) (lines : List (Inventory × String))
    (haccess : AccessListed (d.enterLines lines)) :
    let r := d.enterLines lines
    ((∃ view, MovesTo .privileged r view) ∧
      ∀ view, MovesTo .privileged r view → ∀ devices,
        ((r.enterLines view).interpret devices "show running-config").history =
          (Dialect.echo "show running-config" (r.enterLines view)).history ++ runningConfig r) ∧
    (∃ into, MovesTo .config e into) ∧
    ∀ into first, MovesTo .config e into → first.map Prod.snd = beforeRoutes (runningConfig r) →
      let entered := (e.enterLines into).enterLines first
      (∃ back, MovesTo .config entered back) ∧
      ∀ back rest, MovesTo .config entered back →
        rest.map Prod.snd = routeLines (runningConfig r) →
        let s := (entered.enterLines back).enterLines rest
        s.name = r.name ∧ s.vlans = r.vlans ∧ s.interfaces = r.interfaces ∧
          s.routes = r.routes := by
  intro r
  have hr : Listable r := listable_lines (hd.listable hname) hd.family lines
  have hplaced : Coherent r := coherent_runAll hd.coherent hd.family _
  have hfamily : r.family = .cisco := (d.family_run _).trans hd.family
  refine ⟨⟨exists_toPrivileged hfamily hplaced.position.mem_modes, fun view hview devices => ?_⟩,
    exists_toConfig he.family he.coherent.position.mem_modes, fun into first hinto hfirst => ?_⟩
  · have hconfig := config_navigation hfamily hview.moves
    have hsame : runningConfig (r.enterLines view) = runningConfig r :=
      eq_of_config runningConfig (fun _ => rfl) hconfig
    rw [← hsame]
    exact history_showRunningConfig (listable_lines hr hfamily view)
      ((family_of_config hconfig).trans hfamily) hview.mode devices
  intro entered
  -- apart from its console, the other device is still as it was when the configuration begins
  have hinside : (e.enterLines into).config = e.config := config_navigation he.family hinto.moves
  obtain ⟨last, hleads, hconfig⟩ := leads_beforeRoutes hr hplaced.vlans haccess
    ((family_of_config hinside).trans he.family) hinto.mode
    ((eq_of_config Device.vlans (fun _ => rfl) hinside).trans he.vlans)
    ((eq_of_config Device.interfaces (fun _ => rfl) hinside).trans he.interfaces)
  have hentered : entered.config =
      { e with name := r.name, vlans := r.vlans, interfaces := r.interfaces }.config :=
    ((config_eq_of_forget (hleads.enterLines hfirst)).trans hconfig).trans
      (eq_of_config (fun x => { x with name := r.name, vlans := r.vlans,
                                       interfaces := r.interfaces }.config) (fun _ => rfl) hinside)
  have henteredfamily : entered.family = .cisco := (family_of_config hentered).trans he.family
  have henteredplaced : Coherent entered :=
    coherent_runAll (coherent_runAll he.coherent he.family _)
      ((family_of_config hinside).trans he.family) _
  refine ⟨exists_toConfig henteredfamily henteredplaced.position.mem_modes,
    fun back rest hback hrest => ?_⟩
  intro s
  have hreturned : (entered.enterLines back).config =
      { e with name := r.name, vlans := r.vlans, interfaces := r.interfaces }.config :=
    (config_navigation henteredfamily hback.moves).trans hentered
  have hnoroutes : (entered.enterLines back).routes = [] :=
    (eq_of_config Device.routes (fun _ => rfl) hreturned).trans he.routes
  have hroutes := leads_routeLines ((family_of_config hreturned).trans he.family) hback.mode
    hr.routes hr.distinct (by rw [hnoroutes]; exact fun _ _ => List.not_mem_nil)
  rw [← routeLines_eq, hnoroutes] at hroutes
  let replayed : Device := { e with
    name := r.name, vlans := r.vlans, interfaces := r.interfaces, routes := r.routes }
  have hs : s.config = replayed.config :=
    (config_eq_of_forget (hroutes.enterLines hrest)).trans
      (eq_of_config (fun x => { x with routes := r.routes }.config) (fun _ => rfl) hreturned)
  exact ⟨eq_of_config (e := replayed) Device.name (fun _ => rfl) hs,
    eq_of_config (e := replayed) Device.vlans (fun _ => rfl) hs,
    eq_of_config (e := replayed) Device.interfaces (fun _ => rfl) hs,
    eq_of_config (e := replayed) Device.routes (fun _ => rfl) hs⟩

/-- A description of three words, an access VLAN with a name, and a prefix that is listed with its
    mask. -/
theorem runningConfig_replay_routed :
    let d : Device := { id := "r1", name := "r1", kind := .router, vendor := .cisco }
    let e : Device := { d with id := "r2", name := "r2" }
    let lines : List (Inventory × String) :=
      ["enable", "configure terminal", "hostname core1", "vlan 10", "name users",
        "interface Gi0/1", "description to the core", "switchport access vlan 10",
        "ip address 10.0.0.1 255.255.255.0", "exit",
        "ip route 10.1.0.0 255.255.0.0 10.0.0.254"].map fun text => (SortedMap.empty, text)
    Unconfigured d ∧ Unconfigured e ∧ Text.IsWord d.name ∧ AccessListed (d.enterLines lines) ∧
      ∃ into first back rest, MovesTo .config e into ∧
        MovesTo .config ((e.enterLines into).enterLines first) back ∧
        let s := (((e.enterLines into).enterLines first).enterLines back).enterLines rest
        s.name = "core1" ∧ s.vlans.find? 10 = some "users" ∧
          s.interfaces.find? "Gi0/1" = some
            { ip := "10.0.0.1", mask := "255.255.255.0", description := some "to the core",
              vlan := some 10 } ∧
          s.routes = [{ destination := "10.1.0.0/16", nextHop := "10.0.0.254" }] := by
  intro d e lines
  have hd : Unconfigured d := ⟨rfl, rfl, rfl, rfl, rfl, rfl, rfl⟩
  have he : Unconfigured e := ⟨rfl, rfl, rfl, rfl, rfl, rfl, rfl⟩
  have hname : Text.IsWord d.name := by decide
  have haccess : AccessListed (d.enterLines lines) := by decide +kernel
  have hmade : (d.enterLines lines).name = "core1" ∧
      (d.enterLines lines).vlans.find? 10 = some "users" ∧
      (d.enterLines lines).interfaces.find? "Gi0/1" = some
        { ip := "10.0.0.1", mask := "255.255.255.0", description := some "to the core",
          vlan := some 10 } ∧
      (d.enterLines lines).routes =
        [{ destination := "10.1.0.0/16", nextHop := "10.0.0.254" }] := by decide +kernel
  let typed (texts : List String) : List (Inventory × String) :=
    texts.map fun text => (SortedMap.empty, text)
  have htyped : ∀ texts, (typed texts).map Prod.snd = texts := fun texts => by
    rw [List.map_map]
    exact List.map_id _
  obtain ⟨_, ⟨into, hinto⟩, hreplay⟩ := runningConfig_replay d e hd he hname lines haccess
  obtain ⟨⟨back, hback⟩, hroutes⟩ := hreplay into _ hinto (htyped _)
  obtain ⟨hsname, hsvlans, hsinterfaces, hsroutes⟩ := hroutes back _ hback (htyped _)
  refine ⟨hd, he, hname, haccess, into, _, back, _, hinto, hback, hsname.trans hmade.1, ?_, ?_,
    hsroutes.trans hmade.2.2.2⟩
  · rw [hsvlans]
    exact hmade.2.1
  · rw [hsinterfaces]
    exact hmade.2.2.1

end TrainingLab.Ios
