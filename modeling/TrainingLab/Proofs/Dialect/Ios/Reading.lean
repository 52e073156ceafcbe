import TrainingLab.Proofs.Device.InterfaceNetwork
import TrainingLab.Proofs.Dialect.Ios.Coherence
import TrainingLab.Proofs.Dialect.Ios.Listable

/-
  What the lines of the running configuration do when they are entered. The blocks can be entered
  in any of the configuration modes, as the lines that open them can; the hostname and the routes
  need the configuration mode itself. The marks between the blocks do nothing.

  Proved:
  * `leads_hostname`, `leads_mark`, `leads_routeLine`: the lines that are no block.
  * `leads_vlanBlock`, `leads_interfaceBlock`: the blocks, line by line.
-/

namespace TrainingLab.Ios

open Grammar Device

/-! ## Lines -/

section Lines

variable {d : Device} {line token : String} {rest : List String}

/-- A line of which the table makes a command. -/
theorem leads_of_command (hfamily : d.family = .cisco)
    (hwords : Text.words line = token :: rest) (hmark : token ≠ "?") (hhelp : token ≠ "help")
    {c : Command} (h : dispatch d.mode d.context (token :: rest) table = .done (.command c))
    {e : Device} (hrun : c.run SortedMap.empty d = e) : Leads [line] d e :=
  Dialect.leads_of_command (speaks hfamily) selfContained hwords hmark hhelp h hrun

/-- The rules look at the mode, but not at the objects that are open. -/
theorem table_anywhere : ∀ r ∈ table, r.scope = .anywhere := by
  simp only [table, List.forall_mem_cons]
  repeat apply And.intro rfl
  exact List.forall_mem_nil _

/-- What holds of each configuration mode holds of the mode. -/
theorem of_mem_configModes {P : Mode → Prop} {mode : Mode} (hmode : mode ∈ configModes)
    (hconfig : P .config) (hinterface : P .configInterface) (hrouter : P .configRouter)
    (hvlan : P .configVlan) : P mode := by
  simp only [configModes, List.mem_cons, List.not_mem_nil, or_false] at hmode
  rcases hmode with rfl | rfl | rfl | rfl
  · exact hconfig
  · exact hinterface
  · exact hrouter
  · exact hvlan

/-- The words that open the lines in front of the configuration and between its blocks. -/
def decoration : List String := ["!", "building", "current"]

theorem table_decoration :
    ∀ r ∈ table, ∀ word ∈ decoration, r.pattern.opensWith word = false := by
  let words : List (List Char) :=
    [['!'], ['b', 'u', 'i', 'l', 'd', 'i', 'n', 'g'], ['c', 'u', 'r', 'r', 'e', 'n', 't']]
  have hwords : decoration = words.map String.ofList := rfl
  simp only [hwords, table, List.forall_mem_cons]
  repeat apply And.intro (not_opensWith_ofChars words (by decide))
  exact List.forall_mem_nil _

/-- A line that opens in this way does nothing. -/
theorem leads_decoration (hfamily : d.family = .cisco) (hwords : Text.words line = token :: rest)
    (htoken : Text.lower token ∈ decoration) : Leads [line] d d := by
  have hmark : token ≠ "?" := by
    rintro rfl
    exact absurd htoken (by decide)
  have hhelp : token ≠ "help" := by
    rintro rfl
    exact absurd htoken (by decide)
  refine Dialect.leads_of_unknown (speaks hfamily) hwords hmark hhelp ?_
  exact dispatch_eq_unknown fun r hr _ =>
    Pattern.matches_of_not_opensWith (table_decoration r hr _ htoken) rest

/-- The mark between blocks. -/
theorem leads_mark (hfamily : d.family = .cisco) : Leads ["!"] d d := by
  have hwords : Text.words "!" = ["!"] := by decide
  exact leads_decoration hfamily hwords (by decide)

/-- The lines in front of the configuration. -/
theorem leads_title (hfamily : d.family = .cisco) :
    Leads ["Building configuration...", "", "Current configuration:", "!"] d d := by
  have hbuilding : Text.words "Building configuration..." = ["Building", "configuration..."] := by
    decide
  have hcurrent : Text.words "Current configuration:" = ["Current", "configuration:"] := by decide
  have hblank : Leads [""] d d := Dialect.leads_of_blank (speaks hfamily) (by decide)
  exact (((leads_decoration hfamily hbuilding (by decide)).append hblank).append
    (leads_decoration hfamily hcurrent (by decide))).append (leads_mark hfamily)

theorem leads_hostname (hfamily : d.family = .cisco) (hmode : d.mode = .config) {name : String}
    (hname : Text.IsWord name) : Leads ["hostname " ++ name] d { d with name } := by
  have hwords : Text.words ("hostname " ++ name) = ["hostname", name] :=
    Text.words_append_word (c := ' ') (by decide) (by decide) hname.1 hname.2
  have hdispatch : dispatch d.mode d.context ["hostname", name] table =
      .done (.command (.setHostname name)) := by
    rw [hmode]
    rfl
  exact leads_of_command hfamily hwords (by decide) (by decide) hdispatch rfl

end Lines

/-! ## Words with numbers and addresses -/

/-- An address and its mask behind the words of a setting. -/
theorem words_network {start : String} (hlast : start.toList.getLast? = some ' ')
    (net : Network.Cidr) :
    Text.words (start ++ net.address.toText ++ " " ++ net.mask.toText) =
      Text.words start ++ [net.address.toText, net.mask.toText] := by
  have hspace : (start ++ net.address.toText ++ " ").toList.getLast? = some ' ' :=
    Text.getLast?_append rfl
  have haddress := ne_empty_of_accepts (by decide) (accepts_address net.address)
  have hmask := ne_empty_of_accepts (by decide) (accepts_mask net)
  rw [Text.words_append_word hspace (by decide) net.mask.unbroken_toText hmask,
    Text.words_append_space,
    Text.words_append_word hlast (by decide) net.address.unbroken_toText haddress,
    List.append_assoc, List.singleton_append]

theorem words_vlan (start : String) (hlast : start.toList.getLast? = some ' ') (v : UInt16) :
    Text.words (start ++ toString v) = Text.words start ++ [toString v] :=
  Text.words_append_word hlast (by decide) (Text.unbroken_toString v.toNat)
    (Text.toString_ne_empty v.toNat)

theorem vlanId?_toString {v : UInt16} (h : ValidVlan v) : vlanId? (toString v) = some v := by
  have hhigh : v < 4095 := by
    rw [UInt16.lt_iff_toNat_lt]
    exact Nat.lt_succ_of_le (UInt16.le_iff_toNat_le.mp h.2)
  rw [vlanId?, Text.readUInt16?_toString, Option.filter_some]
  simp only [h.1, hhigh, decide_true, Bool.and_self, if_true]

/-! ## VLANs -/

/-- The VLAN has the name, and the console is in it. -/
def inVlan (d : Device) (v : UInt16) (name : String) : Device :=
  openObject .configVlan .vlan (toString v) { d with vlans := d.vlans.insert v name }

section Vlan

variable {d : Device} {v : UInt16}

theorem dispatch_enterVlan {mode : Mode} (hmode : mode ∈ configModes) (context : List Frame)
    (v : UInt16) : dispatch mode context ["vlan", toString v] table =
      .done (.command (.enterVlan (toString v))) := by
  have helements : (Pattern.ofText "vlan <vlan>").elements =
      [.keyword "vlan" false, .argument "vlan" .number false] := by decide
  have hm : (Pattern.ofText "vlan <vlan>").matches ["vlan", toString v] =
      .full (SortedMap.empty.insert "vlan" (toString v)) := by
    rw [Pattern.matches, helements, align_keyword (by decide), align_argument (accepts_vlan v),
      align_nil]
  rw [dispatch_fromWord]
  refine of_mem_configModes (P := fun mode => dispatch mode context ["vlan", toString v]
    (table.dropWhile fun r =>
      !(r.applies mode context && r.pattern.opensWith (Text.lower "vlan"))) =
    .done (.command (.enterVlan (toString v)))) hmode ?_ ?_ ?_ ?_
  all_goals exact dispatch_cons_of_full (r := Rule.on _ _ _) rfl hm _

/-- The line that opens a VLAN makes it if there is none, and keeps its name if there is one. -/
theorem leads_enterVlan (hfamily : d.family = .cisco) (hmode : d.mode ∈ configModes)
    (hv : ValidVlan v) : ∃ name, Leads ["vlan " ++ toString v] d (inVlan d v name) := by
  have hwords : Text.words ("vlan " ++ toString v) = ["vlan", toString v] :=
    words_vlan "vlan " (by decide) v
  have hrun : ∃ name, Command.run SortedMap.empty (.enterVlan (toString v)) d =
      inVlan d v name := by
    simp only [Command.run, enterVlan, vlanId?_toString hv]
    cases hfind : d.vlans.find? v with
    | none =>
      have hnew : d.vlans.contains v = false := SortedMap.contains_eq_false_iff.mpr hfind
      exact ⟨defaultVlanName v, by rw [hnew]; rfl⟩
    | some name =>
      have hthere : d.vlans.contains v = true := SortedMap.contains_of_find? hfind
      have hsame : d.vlans.insert v name = d.vlans := by
        refine SortedMap.ext_find? fun k => ?_
        rw [SortedMap.find?_insert]
        split
        next heq => rw [heq, hfind]
        next => rfl
      exact ⟨name, by rw [hthere, if_pos rfl, inVlan, hsame]⟩
  obtain ⟨name, hrun⟩ := hrun
  exact ⟨name, leads_of_command hfamily hwords (by decide) (by decide)
    (dispatch_enterVlan hmode d.context v) hrun⟩

theorem leads_nameVlan (hfamily : d.family = .cisco) {name other : String}
    (hname : Text.IsWord name) : Leads [" name " ++ name] (inVlan d v other) (inVlan d v name) := by
  have hwords : Text.words (" name " ++ name) = ["name", name] :=
    Text.words_append_word (c := ' ') (by decide) (by decide) hname.1 hname.2
  have hdispatch : dispatch .configVlan [⟨.vlan, toString v⟩] ["name", name] table =
      .done (.command (.nameVlan name)) := rfl
  have hcontext : (inVlan d v other).context = [⟨.vlan, toString v⟩] := rfl
  have hframe : (inVlan d v other).frameName? .vlan = some (toString v) :=
    frameName?_of_cons hcontext
  have hrun : Command.run SortedMap.empty (.nameVlan name) (inVlan d v other) =
      inVlan d v name := by
    rw [Command.run, nameVlan, hframe, Option.bind_some, Text.readUInt16?_toString]
    simp only [inVlan, openObject, within, enter, SortedMap.insert_insert]
  exact leads_of_command (d := inVlan d v other) hfamily hwords (by decide) (by decide) hdispatch
    hrun

/-- The block of a VLAN gives it its name. -/
theorem leads_vlanBlock (hfamily : d.family = .cisco) (hmode : d.mode ∈ configModes)
    (hv : ValidVlan v) {name : String} (hname : Text.IsWord name) :
    Leads (vlanBlock v name) d (inVlan d v name) := by
  obtain ⟨other, hopen⟩ := leads_enterVlan hfamily hmode hv
  have hmark : Leads ["!"] (inVlan d v name) (inVlan d v name) :=
    leads_mark (d := inVlan d v name) hfamily
  exact (hopen.append (leads_nameVlan hfamily hname)).append hmark

end Vlan

/-! ## Interfaces -/

/-- The interface of the name is as given, and the console is in it. -/
def inInterface (d : Device) (name : String) (i : Interface) : Device :=
  openObject .configInterface .interface name
    { d with interfaces := d.interfaces.insert name i }

theorem editInterface_inInterface (d : Device) (name : String) (i : Interface)
    (f : Interface → Interface) :
    editInterface f (inInterface d name i) = inInterface d name (f i) := by
  have hcontext : (inInterface d name i).context = [⟨.interface, name⟩] := rfl
  have hframe : (inInterface d name i).frameName? .interface = some name :=
    frameName?_of_cons hcontext
  rw [editInterface, hframe]
  simp only [Device.editInterface, inInterface, openObject, within, enter, SortedMap.find?_insert,
    if_true, Option.getD_some, SortedMap.insert_insert]

theorem interfaceBlock_eq (name : String) (i : Interface) : interfaceBlock name i =
    ["interface " ++ name] ++
      (i.description.elim [] fun text => [" description " ++ text]) ++
      (i.vlan.elim [] fun vlan => [" switchport access vlan " ++ toString vlan]) ++
      (i.zone.elim [] fun zone => [" zone-member security " ++ zone]) ++
      [if i.ip == "" then " no ip address" else " ip address " ++ i.ip ++ " " ++ i.dottedMask] ++
      (if i.up then [] else [" shutdown"]) ++
      ["!"] := by
  unfold interfaceBlock
  cases i.description <;> cases i.vlan <;> cases i.zone <;> rfl

section Interface

variable {d : Device} {name : String} {i : Interface}

theorem leads_enterInterface (hfamily : d.family = .cisco) (hmode : d.mode ∈ configModes)
    (hname : Text.IsWord name) :
    Leads ["interface " ++ name] d
      (inInterface d name ((d.interfaces.find? name).getD {})) := by
  have hwords : Text.words ("interface " ++ name) = ["interface", name] :=
    Text.words_append_word (c := ' ') (by decide) (by decide) hname.1 hname.2
  have hdispatch : dispatch d.mode d.context ["interface", name] table =
      .done (.command (.enterInterface (name ++ ""))) :=
    of_mem_configModes (P := fun mode => dispatch mode d.context ["interface", name] table =
      .done (.command (.enterInterface (name ++ "")))) hmode rfl rfl rfl rfl
  rw [String.append_empty] at hdispatch
  exact leads_of_command hfamily hwords (by decide) (by decide) hdispatch rfl

/-- A line that is a setting of the interface. -/
theorem leads_setInterface (hfamily : d.family = .cisco) {line token : String}
    {rest : List String} (hwords : Text.words line = token :: rest) (hmark : token ≠ "?")
    (hhelp : token ≠ "help") {c : Command}
    (hdispatch : dispatch .configInterface [⟨.interface, name⟩] (token :: rest) table =
      .done (.command c)) (f : Interface → Interface)
    (hrun : c.run SortedMap.empty (inInterface d name i) =
      editInterface f (inInterface d name i)) :
    Leads [line] (inInterface d name i) (inInterface d name (f i)) := by
  rw [editInterface_inInterface] at hrun
  exact leads_of_command (d := inInterface d name i) hfamily hwords hmark hhelp hdispatch hrun

theorem leads_setDescription (hfamily : d.family = .cisco) {line text : String}
    (hwords : Text.words line = "description" :: Text.words text) (htext : Text.IsNormal text)
    (hne : text ≠ "") :
    Leads [line] (inInterface d name i) (inInterface d name (i.setDescription (some text))) := by
  obtain ⟨first, rest, hparts⟩ := htext.exists_words hne
  rw [hparts] at hwords
  have hjoin : Text.joinWith " " (first :: rest) = text := hparts ▸ htext
  have hdispatch : dispatch .configInterface [⟨.interface, name⟩]
      ("description" :: first :: rest) table =
      .done (.command (.setDescription (some (Text.joinWith " " (first :: rest))))) := rfl
  rw [hjoin] at hdispatch
  exact leads_setInterface hfamily hwords (by decide) (by decide) hdispatch
    (fun i => i.setDescription (some text)) rfl

theorem dispatch_setAccessVlan (v : UInt16) :
    dispatch .configInterface [⟨.interface, name⟩] ["switchport", "access", "vlan", toString v]
      table = .done (.command (.setAccessVlan (toString v))) := by
  have helements : (Pattern.ofText "switchport access vlan <vlan>").elements =
      [.keyword "switchport" false, .keyword "access" false, .keyword "vlan" false,
        .argument "vlan" .number false] := by decide
  have hm : (Pattern.ofText "switchport access vlan <vlan>").matches
      ["switchport", "access", "vlan", toString v] =
      .full (SortedMap.empty.insert "vlan" (toString v)) := by
    rw [Pattern.matches, helements, align_keyword (by decide), align_keyword (by decide),
      align_keyword (by decide), align_argument (accepts_vlan v), align_nil]
  rw [dispatch_fromWord]
  exact dispatch_cons_of_full (r := Rule.on _ _ _) rfl hm _

/-- A VLAN that is there is not made once more. -/
theorem leads_setAccessVlan (hfamily : d.family = .cisco) {v : UInt16} (hv : ValidVlan v)
    (hthere : d.vlans.contains v = true) :
    Leads [" switchport access vlan " ++ toString v] (inInterface d name i)
      (inInterface d name (i.setVlan (some v))) := by
  have hwords : Text.words (" switchport access vlan " ++ toString v) =
      ["switchport", "access", "vlan", toString v] :=
    words_vlan " switchport access vlan " (by decide) v
  have hcontext : (inInterface d name i).context = [⟨.interface, name⟩] := rfl
  have hframe : ((inInterface d name i).frameName? .interface).isNone = false := by
    rw [frameName?_of_cons hcontext]
    rfl
  have hnotice : noticeVlan v (inInterface d name i) = inInterface d name i := by
    have hthere' : (inInterface d name i).vlans.contains v = true := hthere
    rw [noticeVlan, if_pos hthere']
  have hrun : Command.run SortedMap.empty (.setAccessVlan (toString v)) (inInterface d name i) =
      editInterface (fun i => i.setVlan (some v)) (inInterface d name i) := by
    simp only [Command.run, setAccessVlan, vlanId?_toString hv, hframe, hnotice,
      Bool.false_eq_true, if_false]
  exact leads_setInterface hfamily hwords (by decide) (by decide) (dispatch_setAccessVlan v)
    (fun i => i.setVlan (some v)) hrun

theorem leads_setZone (hfamily : d.family = .cisco) {line zone : String}
    (hwords : Text.words line = ["zone-member", "security", zone]) :
    Leads [line] (inInterface d name i) (inInterface d name (i.setZone (some zone))) := by
  have hdispatch : dispatch .configInterface [⟨.interface, name⟩]
      ["zone-member", "security", zone] table = .done (.command (.setZone (some zone))) := rfl
  exact leads_setInterface hfamily hwords (by decide) (by decide) hdispatch
    (fun i => i.setZone (some zone)) rfl

theorem leads_clearAddress (hfamily : d.family = .cisco) :
    Leads [" no ip address"] (inInterface d name i) (inInterface d name i.clearAddress) := by
  have hwords : Text.words " no ip address" = ["no", "ip", "address"] := by decide
  have hdispatch : dispatch .configInterface [⟨.interface, name⟩] ["no", "ip", "address"] table =
      .done (.command .clearAddress) := rfl
  exact leads_setInterface hfamily hwords (by decide) (by decide) hdispatch
    Interface.clearAddress rfl

theorem dispatch_setAddress (net : Network.Cidr) :
    dispatch .configInterface [⟨.interface, name⟩]
      ["ip", "address", net.address.toText, net.mask.toText] table =
      .done (.command (.setAddress net.address.toText net.mask.toText)) := by
  have helements : (Pattern.ofText "ip address <ip> <mask>").elements =
      [.keyword "ip" false, .keyword "address" false, .argument "ip" .address false,
        .argument "mask" .mask false] := by decide
  have hm : (Pattern.ofText "ip address <ip> <mask>").matches
      ["ip", "address", net.address.toText, net.mask.toText] =
      .full ((SortedMap.empty.insert "ip" net.address.toText).insert "mask" net.mask.toText) := by
    rw [Pattern.matches, helements, align_keyword (by decide), align_keyword (by decide),
      align_argument (accepts_address net.address), align_argument (accepts_mask net), align_nil]
  rw [dispatch_fromWord]
  exact dispatch_cons_of_full (r := Rule.on _ _ _) rfl hm _

theorem leads_setAddress (hfamily : d.family = .cisco) {line : String} {net : Network.Cidr}
    (hwords : Text.words line = ["ip", "address", net.address.toText, net.mask.toText]) :
    Leads [line] (inInterface d name i)
      (inInterface d name (i.setAddress net.address.toText net.mask.toText)) :=
  leads_setInterface hfamily hwords (by decide) (by decide) (dispatch_setAddress net)
    (fun i => i.setAddress net.address.toText net.mask.toText) rfl

theorem leads_shutdown (hfamily : d.family = .cisco) {line : String}
    (hwords : Text.words line = ["shutdown"]) :
    Leads [line] (inInterface d name i) (inInterface d name (i.setUp false)) := by
  have hdispatch : dispatch .configInterface [⟨.interface, name⟩] ["shutdown"] table =
      .done (.command (.setUp false)) := rfl
  exact leads_setInterface hfamily hwords (by decide) (by decide) hdispatch
    (fun i => i.setUp false) rfl

theorem dottedMask_of_net {net : Network.Cidr} (hip : i.ip = net.address.toText)
    (hmask : i.mask = net.mask.toText) : i.dottedMask = net.mask.toText := by
  have hnet : i.net? = some net := by
    rw [Interface.net?, hip, hmask]
    exact Network.readCidr?_of_parts net.address.ofText?_toText
      (Network.readMask?_maskOf net.length_le).1
  exact Interface.dottedMask_of_net? hnet

/-- The line of the address sets it, or leaves an interface without one as it is. -/
theorem leads_address (hfamily : d.family = .cisco) (hi : ListableInterface i)
    (described : Interface) :
    Leads [if i.ip == "" then " no ip address" else " ip address " ++ i.ip ++ " " ++ i.dottedMask]
      (inInterface d name described)
      (inInterface d name { described with ip := i.ip, mask := i.mask }) := by
  rcases hi.address with ⟨hip, hmask⟩ | ⟨net, hip, hmask⟩
  · rw [hip, hmask]
    exact leads_clearAddress hfamily
  · have hne : (i.ip == "") = false := by
      rw [beq_eq_false_iff_ne, hip]
      exact ne_empty_of_accepts (by decide) (accepts_address net.address)
    rw [hne, if_neg Bool.false_ne_true, dottedMask_of_net hip hmask, hip, hmask]
    exact leads_setAddress hfamily (words_network (by decide) net)

/-- The block of an interface makes it, if there is none of its name. -/
theorem leads_interfaceBlock (hfamily : d.family = .cisco) (hmode : d.mode ∈ configModes)
    (hname : Text.IsWord name) (hnew : d.interfaces.find? name = none)
    (hi : ListableInterface i)
    (hvlan : ∀ v, i.vlan = some v → ValidVlan v ∧ d.vlans.contains v = true) :
    Leads (interfaceBlock name i) d (inInterface d name i) := by
  let described : Interface := { description := i.description }
  let switched : Interface := { described with vlan := i.vlan }
  let zoned : Interface := { switched with zone := i.zone }
  let addressed : Interface := { zoned with ip := i.ip, mask := i.mask }
  have hopen : Leads ["interface " ++ name] d (inInterface d name {}) := by
    have hblank : (d.interfaces.find? name).getD {} = {} := by rw [hnew, Option.getD_none]
    exact hblank ▸ leads_enterInterface hfamily hmode hname
  have hdescription : Leads (i.description.elim [] fun text => [" description " ++ text])
      (inInterface d name {}) (inInterface d name described) := by
    refine .elim (fun h => by simp only [described, h]) fun text h => ?_
    obtain ⟨hnormal, hne⟩ := hi.description text h
    have hset : Interface.setDescription {} (some text) = described := by
      simp [Interface.setDescription, nonempty?, described, h, hne]
    have hwords : Text.words (" description " ++ text) = "description" :: Text.words text :=
      Text.words_append_of_blank (c := ' ') (by decide) (by decide) text
    exact hset ▸ leads_setDescription hfamily hwords hnormal hne
  have hswitched : Leads
      (i.vlan.elim [] fun vlan => [" switchport access vlan " ++ toString vlan])
      (inInterface d name described) (inInterface d name switched) := by
    refine .elim (fun h => by simp only [switched, h]; rfl) fun v h => ?_
    obtain ⟨hv, hthere⟩ := hvlan v h
    have hset : described.setVlan (some v) = switched := by
      simp [Interface.setVlan, switched, h]
    exact hset ▸ leads_setAccessVlan hfamily hv hthere
  have hzone : Leads (i.zone.elim [] fun zone => [" zone-member security " ++ zone])
      (inInterface d name switched) (inInterface d name zoned) := by
    refine .elim (fun h => by simp only [zoned, h]; rfl) fun zone h => ?_
    have hword := hi.zone zone h
    have hset : switched.setZone (some zone) = zoned := by
      simp [Interface.setZone, nonempty?, zoned, h, hword.2]
    have hwords : Text.words (" zone-member security " ++ zone) =
        ["zone-member", "security", zone] :=
      Text.words_append_word (c := ' ') (by decide) (by decide) hword.1 hword.2
    exact hset ▸ leads_setZone hfamily hwords
  have haddress : Leads [if i.ip == "" then " no ip address" else
      " ip address " ++ i.ip ++ " " ++ i.dottedMask] (inInterface d name zoned)
      (inInterface d name addressed) := leads_address hfamily hi zoned
  have hup : Leads (if i.up then [] else [" shutdown"]) (inInterface d name addressed)
      (inInterface d name i) := by
    cases h : i.up with
    | true =>
      have hsame : addressed = i := by simp [addressed, zoned, switched, described, ← h]
      rw [hsame]
      exact .nil _
    | false =>
      have hset : addressed.setUp false = i := by
        simp [Interface.setUp, addressed, zoned, switched, described, ← h]
      exact hset ▸ leads_shutdown hfamily (by decide)
  have hmark : Leads ["!"] (inInterface d name i) (inInterface d name i) :=
    leads_mark (d := inInterface d name i) hfamily
  rw [interfaceBlock_eq]
  exact (((((hopen.append hdescription).append hswitched).append hzone).append haddress).append
    hup).append hmark

end Interface

/-! ## Routes -/

section Route

variable {d : Device}

theorem dispatch_addRoute (context : List Frame) (net : Network.Cidr)
    (nextHop : Network.Address) :
    dispatch .config context
      ["ip", "route", net.address.toText, net.mask.toText, nextHop.toText] table =
      .done (.command (.addRoute net.address.toText net.mask.toText nextHop.toText)) := by
  have helements : (Pattern.ofText "ip route <ip> <mask> <next-hop>").elements =
      [.keyword "ip" false, .keyword "route" false, .argument "ip" .address false,
        .argument "mask" .mask false, .argument "next-hop" .address false] := by decide
  have hm : (Pattern.ofText "ip route <ip> <mask> <next-hop>").matches
      ["ip", "route", net.address.toText, net.mask.toText, nextHop.toText] =
      .full (((SortedMap.empty.insert "ip" net.address.toText).insert "mask"
        net.mask.toText).insert "next-hop" nextHop.toText) := by
    rw [Pattern.matches, helements, align_keyword (by decide), align_keyword (by decide),
      align_argument (accepts_address net.address), align_argument (accepts_mask net),
      align_argument (accepts_address nextHop), align_nil]
  rw [dispatch_fromWord]
  exact dispatch_cons_of_full (r := Rule.on _ _ _) rfl hm _

/-- The line of a route that is not there yet puts it at the end. -/
theorem leads_routeLine (hfamily : d.family = .cisco) (hmode : d.mode = .config) {r : Route}
    (hr : ListableRoute r) (hnew : r ∉ d.routes) :
    Leads [routeLine r] d { d with routes := d.routes ++ [r] } := by
  obtain ⟨net, nextHop, hnet, rfl⟩ := hr
  have hline : routeLine { destination := net.toText, nextHop := nextHop.toText } =
      "ip route " ++ net.address.toText ++ " " ++ net.mask.toText ++ " " ++ nextHop.toText := by
    rw [routeLine, Network.networkAndMask_toText hnet]
  have hspace : ("ip route " ++ net.address.toText ++ " " ++ net.mask.toText ++
      " ").toList.getLast? = some ' ' := Text.getLast?_append rfl
  have hwords : Text.words ("ip route " ++ net.address.toText ++ " " ++ net.mask.toText ++ " " ++
      nextHop.toText) = ["ip", "route", net.address.toText, net.mask.toText, nextHop.toText] := by
    rw [Text.words_append_word hspace (by decide) nextHop.unbroken_toText
      (ne_empty_of_accepts (by decide) (accepts_address nextHop)), Text.words_append_space,
      words_network (by decide) net]
    rfl
  have hrun : Command.run SortedMap.empty
      (.addRoute net.address.toText net.mask.toText nextHop.toText) d =
      { d with
        routes := d.routes ++ [{ destination := net.toText, nextHop := nextHop.toText }] } := by
    rw [Command.run, addRoute, Network.readNetwork?_mask hnet]
    simp only [Route.addTo, List.contains_iff_mem, hnew, if_false]
  rw [hline]
  refine leads_of_command hfamily hwords (by decide) (by decide) ?_ hrun
  rw [hmode]
  exact dispatch_addRoute d.context net nextHop

end Route

end TrainingLab.Ios
