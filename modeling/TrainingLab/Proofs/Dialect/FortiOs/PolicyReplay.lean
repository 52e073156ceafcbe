import TrainingLab.Proofs.Dialect.FortiOs.ListablePolicies
import TrainingLab.Proofs.Dialect.FortiOs.Replay

/-
  The listing of the policies, entered on a fresh device. It makes what was listed, apart from the
  service of a policy for all of TCP or all of UDP: that is listed by a word that `set service`
  refuses, and the policy stays without a protocol.

  Proved:
  * `leads_policyBlock`, `leads_policySection`: what the listing does line by line.
  * `feed_not_mem_policySection`: each text of the listing is one line of the history.
  * `policies_replay`: a run of lines, the listing, and another device.
-/

namespace TrainingLab.FortiOs

open Grammar Device

/-! ## Entering a policy -/

/-- The policy is the last one, and it is being edited. -/
def inPolicy (d : Device) (p : Policy) : Device :=
  { d with
    policies := d.policies ++ [p]
    context := [⟨.policyObject, toString p.id⟩, ⟨.configSection, policies⟩] }

/-- The policy has an id that the device does not use yet. -/
def IsNew (d : Device) (p : Policy) : Prop := p.id ∉ d.policies.map Policy.id

/-- What the listing of a policy says about it. A service for all of TCP or all of UDP is lost. -/
def readPolicy (p : Policy) : Policy :=
  if isWholeTransport p then { p with protocol := none } else p

theorem readPolicy_eq_self_iff {p : Policy} :
    readPolicy p = p ↔ isWholeTransport p = false := by
  unfold readPolicy
  split
  next hwhole =>
    simp only [hwhole, Bool.true_eq_false, iff_false]
    intro heq
    have hnone : p.protocol = none := (congrArg Policy.protocol heq).symm
    rw [isWholeTransport, hnone] at hwhole
    cases hwhole
  next hother => simpa using hother

theorem editFirst_last {f : Policy → Policy} {l : List Policy} {p : Policy}
    (hnew : p.id ∉ l.map Policy.id) : editFirst p.id f (l ++ [p]) = l ++ [f p] := by
  induction l with
  | nil => simp [editFirst]
  | cons q rest ih =>
    obtain ⟨hq, hrest⟩ : p.id ≠ q.id ∧ p.id ∉ rest.map Policy.id := by simpa using hnew
    rw [List.cons_append, editFirst, if_neg (Ne.symm hq), ih hrest, List.cons_append]

section Lines

variable {d : Device} {p : Policy}

theorem editPolicy_inPolicy (hnew : IsNew d p) {f : Policy → Policy} (hid : (f p).id = p.id) :
    editPolicy f (inPolicy d p) = inPolicy d (f p) := by
  have hcontext : (inPolicy d p).context =
      [⟨.policyObject, toString p.id⟩, ⟨.configSection, policies⟩] := rfl
  have hframe : (inPolicy d p).frameName? .policyObject = some (toString p.id) :=
    frameName?_of_cons hcontext
  have hthere : ((d.policies ++ [p]).any fun q => q.id == p.id) = true := by simp
  rw [editPolicy, hframe, Option.bind_some, Text.readUInt32?_toString]
  simp only [inPolicy, hthere, if_true, editFirst_last hnew, hid]

/-- A line that is a setting of the policy. -/
theorem leads_setPolicy (hfamily : d.family = .fortinet) (hnew : IsNew d p) {line : String}
    {rest : List String} (hwords : Text.words line = "set" :: rest) {c : Command}
    (hdispatch : ∀ id, dispatch d.mode [⟨.policyObject, id⟩, ⟨.configSection, policies⟩]
      ("set" :: rest) table = .done (.command c)) (f : Policy → Policy) (hid : (f p).id = p.id)
    (hrun : c.run SortedMap.empty (inPolicy d p) = editPolicy f (inPolicy d p)) :
    Leads [line] (inPolicy d p) (inPolicy d (f p)) := by
  rw [editPolicy_inPolicy hnew hid] at hrun
  exact leads_of_command (d := inPolicy d p) hfamily hwords (by decide) (by decide)
    (hdispatch _) hrun

theorem dispatch_editPolicy {mode : Mode} {outer : List Frame} {id : String}
    (haccepts : ArgumentKind.number.accepts id = true) :
    dispatch mode (⟨.configSection, policies⟩ :: outer) ["edit", id] table =
      .done (.command (.openPolicy id)) := by
  have helements : (Pattern.ofText "edit <id>").elements =
      [.keyword "edit" false, .argument "id" .number false] := by decide
  have hm : (Pattern.ofText "edit <id>").matches ["edit", id] =
      .full (SortedMap.empty.insert "id" id) := by
    rw [Pattern.matches, helements, align_keyword (by decide), align_argument haccepts, align_nil]
  rw [dispatch_fromScope (.inSection policies) rfl]
  exact dispatch_cons_of_full (r := inside _ _ _) rfl hm _

theorem leads_editPolicy (hfamily : d.family = .fortinet)
    (hcontext : d.context = [⟨.configSection, policies⟩]) {id : UInt32} (hid : id ≠ 0)
    (hnew : IsNew d (blankPolicy id)) :
    Leads ["    edit " ++ toString id] d (inPolicy d (blankPolicy id)) := by
  have hwords : Text.words ("    edit " ++ toString id) = ["edit", toString id] :=
    words_position id.toNat
  have hdispatch : dispatch d.mode d.context ["edit", toString id] table =
      .done (.command (.openPolicy (toString id))) := by
    rw [hcontext]
    exact dispatch_editPolicy (accepts_number id.toNat_lt_size)
  have hother : (d.policies.any fun p => p.id == id) = false :=
    List.any_eq_false.mpr fun q hq hqid => hnew (List.mem_map.mpr ⟨q, hq, beq_iff_eq.mp hqid⟩)
  have hrun : Command.run SortedMap.empty (.openPolicy (toString id)) d =
      inPolicy d (blankPolicy id) := by
    rw [Command.run, openPolicy, Text.readUInt32?_toString]
    simp only [beq_iff_eq, hid, if_false, hother, Bool.false_eq_true, push, hcontext, inPolicy,
      blankPolicy]
  exact leads_of_command hfamily hwords (by decide) (by decide) hdispatch hrun

theorem leads_setName (hfamily : d.family = .fortinet) (hnew : IsNew d p) {name : String}
    (hbare : Text.Bare name) (hspaced : Text.Spaced name.toList) :
    Leads ["        set name \"" ++ name ++ "\""] (inPolicy d p)
      (inPolicy d { p with name }) := by
  have hjoin := Text.joinWith_words_inQuotes hspaced
  cases htext : Text.words (Text.inQuotes name) with
  | nil =>
    rw [htext] at hjoin
    exact absurd hjoin.symm (Text.inQuotes_ne_empty name)
  | cons first rest =>
    rw [htext] at hjoin
    have hwords : Text.words ("        set name \"" ++ name ++ "\"") =
        "set" :: "name" :: first :: rest := by
      rw [words_quoted "        set name " (by decide) (by decide), htext]
      rfl
    have hdispatch : ∀ id, dispatch d.mode [⟨.policyObject, id⟩, ⟨.configSection, policies⟩]
        ("set" :: "name" :: first :: rest) table =
        .done (.command (.setName (Text.joinWith " " (first :: rest)))) := fun _ => rfl
    refine leads_setPolicy hfamily hnew hwords hdispatch (fun p => { p with name }) rfl ?_
    rw [Command.run, hjoin, Text.unquote_inQuotes hbare]

/-- A setting with one word between quotes. -/
theorem leads_setWord (hfamily : d.family = .fortinet) (hnew : IsNew d p) (start : String)
    {opening : String} (hopening : opening = start ++ "\"")
    (hlast : start.toList.getLast? = some ' ') (field : String)
    (hstart : Text.words start = ["set", field]) {word : String} (hword : IsName word)
    {c : String → Command}
    (hdispatch : ∀ id, dispatch d.mode [⟨.policyObject, id⟩, ⟨.configSection, policies⟩]
      ["set", field, Text.inQuotes word] table = .done (.command (c (Text.inQuotes word))))
    (f : Policy → Policy) (hid : (f p).id = p.id)
    (hrun : (c (Text.inQuotes word)).run SortedMap.empty (inPolicy d p) =
      editPolicy f (inPolicy d p)) :
    Leads [opening ++ word ++ "\""] (inPolicy d p) (inPolicy d (f p)) := by
  have hwords : Text.words (opening ++ word ++ "\"") = ["set", field, Text.inQuotes word] := by
    rw [words_name start hopening hlast hword, hstart]
    rfl
  exact leads_setPolicy hfamily hnew hwords hdispatch f hid hrun

theorem leads_setFromZone (hfamily : d.family = .fortinet) (hnew : IsNew d p) {zone : String}
    (hzone : IsName zone) :
    Leads ["        set srcintf \"" ++ zone ++ "\""] (inPolicy d p)
      (inPolicy d { p with fromZone := zone }) := by
  refine leads_setWord hfamily hnew "        set srcintf " (by decide) (by decide) "srcintf"
    (by decide) hzone (c := .setFromZone) (fun _ => rfl)
    (fun p => { p with fromZone := zone }) rfl ?_
  rw [Command.run, Text.unquote_inQuotes hzone.bare]

theorem leads_setToZone (hfamily : d.family = .fortinet) (hnew : IsNew d p) {zone : String}
    (hzone : IsName zone) :
    Leads ["        set dstintf \"" ++ zone ++ "\""] (inPolicy d p)
      (inPolicy d { p with toZone := zone }) := by
  refine leads_setWord hfamily hnew "        set dstintf " (by decide) (by decide) "dstintf"
    (by decide) hzone (c := .setToZone) (fun _ => rfl)
    (fun p => { p with toZone := zone }) rfl ?_
  rw [Command.run, Text.unquote_inQuotes hzone.bare]

theorem isName_addressName {address : String} (h : IsName address) :
    IsName (addressName address) := by
  unfold addressName
  split
  next => exact isName_unquote (s := "all") (by decide)
  next => exact h

/-- An address is read back from its name, as none is listed as `all` but `any`. -/
theorem readAddress_addressName {address : String} (h : IsName address) (hall : address ≠ "all") :
    readAddress (Text.inQuotes (addressName address)) = address := by
  rw [readAddress, Text.unquote_inQuotes (isName_addressName h).bare]
  unfold addressName
  by_cases hany : address = "any"
  · simp [hany]
  · simp [hany, hall]

theorem leads_setSource (hfamily : d.family = .fortinet) (hnew : IsNew d p) {address : String}
    (haddress : IsName address) (hall : address ≠ "all") :
    Leads ["        set srcaddr \"" ++ addressName address ++ "\""] (inPolicy d p)
      (inPolicy d { p with source := address }) := by
  refine leads_setWord hfamily hnew "        set srcaddr " (by decide) (by decide) "srcaddr"
    (by decide) (isName_addressName haddress) (c := .setSource) (fun _ => rfl)
    (fun p => { p with source := address }) rfl ?_
  rw [Command.run, readAddress_addressName haddress hall]

theorem leads_setDestinationAddress (hfamily : d.family = .fortinet) (hnew : IsNew d p)
    {address : String} (haddress : IsName address) (hall : address ≠ "all") :
    Leads ["        set dstaddr \"" ++ addressName address ++ "\""] (inPolicy d p)
      (inPolicy d { p with destination := address }) := by
  refine leads_setWord hfamily hnew "        set dstaddr " (by decide) (by decide) "dstaddr"
    (by decide) (isName_addressName haddress) (c := .setDestinationAddress) (fun _ => rfl)
    (fun p => { p with destination := address }) rfl ?_
  rw [Command.run, readAddress_addressName haddress hall]

theorem leads_setAction (hfamily : d.family = .fortinet) (hnew : IsNew d p)
    (action : PolicyAction) :
    Leads ["        set action " ++ (match action with | .allow => "accept" | .deny => "deny")]
      (inPolicy d p) (inPolicy d { p with action }) := by
  cases action with
  | allow =>
    have hwords : Text.words ("        set action " ++ "accept") = ["set", "action", "accept"] := by
      decide
    exact leads_setPolicy hfamily hnew hwords (c := .setAction "accept") (fun _ => rfl)
      (fun p => { p with action := .allow }) rfl rfl
  | deny =>
    have hwords : Text.words ("        set action " ++ "deny") = ["set", "action", "deny"] := by
      decide
    exact leads_setPolicy hfamily hnew hwords (c := .setAction "deny") (fun _ => rfl)
      (fun p => { p with action := .deny }) rfl rfl

/-- The service of the policy that is being edited is set from the listed name of another one's. -/
theorem leads_setService (hfamily : d.family = .fortinet) (hnew : IsNew d p)
    (hblank : p.protocol = none ∧ p.port = none) {q : Policy}
    (hselector : (q.protocol, q.port) ∈ selectors) :
    Leads ["        set service \"" ++ serviceName q ++ "\""] (inPolicy d p)
      (inPolicy d
        { p with protocol := (readPolicy q).protocol, port := (readPolicy q).port }) := by
  have hname := isName_serviceName hselector
  have hwords : Text.words ("        set service \"" ++ serviceName q ++ "\"") =
      ["set", "service", Text.inQuotes (serviceName q)] :=
    words_name "        set service " (by decide) (by decide) hname
  have hdispatch : ∀ id, dispatch d.mode [⟨.policyObject, id⟩, ⟨.configSection, policies⟩]
      ["set", "service", Text.inQuotes (serviceName q)] table =
      .done (.command (.setService (Text.inQuotes (serviceName q)))) := fun _ => rfl
  have hfirst : ((Text.words (Text.inQuotes (serviceName q))).head?.map Text.unquote).getD "" =
      serviceName q := by
    rw [Text.words_of_unbroken (Text.unbroken_inQuotes hname.unbroken) (Text.inQuotes_ne_empty _),
      List.head?_cons, Option.map_some, Option.getD_some, Text.unquote_inQuotes hname.bare]
  cases hwhole : isWholeTransport q with
  | false =>
    have hself : readPolicy q = q := readPolicy_eq_self_iff.mpr hwhole
    rw [hself]
    refine leads_setPolicy hfamily hnew hwords hdispatch
      (fun p => { p with protocol := q.protocol, port := q.port }) rfl ?_
    rw [Command.run, setService, hfirst, selector?_serviceName hselector, hwhole]
    rfl
  | true =>
    have hrefused : Command.run SortedMap.empty
        (.setService (Text.inQuotes (serviceName q))) (inPolicy d p) =
        (inPolicy d p).log notFound := by
      rw [Command.run, setService, hfirst, selector?_serviceName hselector, hwhole]
      rfl
    have hkept : ({ p with protocol := (readPolicy q).protocol, port := (readPolicy q).port } :
        Policy) = p := by
      obtain ⟨hprotocol, hport⟩ := hblank
      have hqport : q.port = none := by
        rw [isWholeTransport, Bool.and_eq_true, beq_iff_eq] at hwhole
        exact hwhole.2
      rw [readPolicy, if_pos hwhole, hqport]
      cases p
      cases hprotocol
      cases hport
      rfl
    have hleads : Leads ["        set service \"" ++ serviceName q ++ "\""] (inPolicy d p)
        ((inPolicy d p).log notFound) :=
      leads_of_command (d := inPolicy d p) hfamily hwords (by decide) (by decide) (hdispatch _)
        hrefused
    rw [hkept]
    exact hleads

theorem leads_nextPolicy (hfamily : d.family = .fortinet)
    (hcontext : d.context = [⟨.configSection, policies⟩]) :
    Leads ["    next"] (inPolicy d p) { d with policies := d.policies ++ [p] } := by
  refine leads_next (d := inPolicy d p) hfamily rfl ?_
  show (inPolicy d p).pop = _
  simp only [inPolicy, pop, List.tail_cons, ← hcontext]

/-- The block of a policy puts what it says at the end, if there is none of the id. -/
theorem leads_policyBlock (hfamily : d.family = .fortinet)
    (hcontext : d.context = [⟨.configSection, policies⟩]) (hnew : IsNew d p)
    (hp : ListablePolicy p) :
    Leads (policyBlock p) d { d with policies := d.policies ++ [readPolicy p] } := by
  let named : Policy := { blankPolicy p.id with name := p.name }
  let sent : Policy := { named with fromZone := p.fromZone }
  let zoned : Policy := { sent with toZone := p.toZone }
  let sourced : Policy := { zoned with source := p.source }
  let addressed : Policy := { sourced with destination := p.destination }
  let decided : Policy := { addressed with action := p.action }
  have hlast : ({ decided with
      protocol := (readPolicy p).protocol, port := (readPolicy p).port } : Policy) =
      readPolicy p := by
    have hpriority := hp.priority
    obtain ⟨_, _, _, _, _, priority, _, _, _, _⟩ := p
    cases hpriority
    unfold readPolicy
    split <;> rfl
  have hedit := leads_editPolicy hfamily hcontext hp.id hnew
  have hname := leads_setName hfamily (p := blankPolicy p.id) hnew hp.name.1 hp.name.2
  have hfrom := leads_setFromZone hfamily (p := named) hnew hp.fromZone
  have hto := leads_setToZone hfamily (p := sent) hnew hp.toZone
  have hsource := leads_setSource hfamily (p := zoned) hnew hp.source.1 hp.source.2
  have hdestination := leads_setDestinationAddress hfamily (p := sourced) hnew hp.destination.1
    hp.destination.2
  have haction := leads_setAction hfamily (p := addressed) hnew p.action
  have hservice := leads_setService hfamily (p := decided) hnew ⟨rfl, rfl⟩ hp.selector
  rw [hlast] at hservice
  have hnext := leads_nextPolicy (p := readPolicy p) hfamily hcontext
  exact (((((((hedit.append hname).append hfrom).append hto).append hsource).append
    hdestination).append haction).append hservice).append hnext

/-- The blocks of policies, none of whose ids is there before. -/
theorem leads_policyBlocks (hfamily : d.family = .fortinet)
    (hcontext : d.context = [⟨.configSection, policies⟩]) {listed : List Policy}
    (hlisted : ∀ p ∈ listed, ListablePolicy p) (hids : (listed.map Policy.id).Nodup)
    (hnew : ∀ p ∈ listed, IsNew d p) :
    Leads (listed.map policyBlock).flatten d
      { d with policies := d.policies ++ listed.map readPolicy } := by
  induction listed generalizing d with
  | nil =>
    rw [List.map_nil, List.map_nil, List.append_nil]
    exact .nil d
  | cons p rest ih =>
    obtain ⟨hp, hrest⟩ := List.forall_mem_cons.mp hlisted
    obtain ⟨hpnew, hrestnew⟩ := List.forall_mem_cons.mp hnew
    obtain ⟨hpid, hrestids⟩ := List.nodup_cons.mp hids
    have hid : (readPolicy p).id = p.id := by
      unfold readPolicy
      split <;> rfl
    have hmore := ih (d := { d with policies := d.policies ++ [readPolicy p] }) hfamily hcontext
      hrest hrestids fun q hq => by
        have hne : q.id ≠ p.id := fun heq => hpid (heq ▸ List.mem_map_of_mem hq)
        simpa [IsNew, hid, hne] using hrestnew q hq
    rw [List.map_cons, List.map_cons, List.append_cons]
    exact (leads_policyBlock hfamily hcontext hpnew hp).append hmore

theorem policySection_none (d : Device) :
    policySection d none = sectionBlock policies (d.policies.map policyBlock) := by
  have hall : d.policies.filter (fun _ => true) = d.policies :=
    List.filter_eq_self.mpr fun _ _ => rfl
  exact congrArg (fun l => sectionBlock policies (l.map policyBlock)) hall

/-- The listing of policies, on a device that has none. -/
theorem leads_policySection {r : Device} (hr : ListablePolicies r) (hfamily : d.family = .fortinet)
    (htop : d.context = []) (hnone : d.policies = []) :
    Leads (policySection r none) d { d with policies := r.policies.map readPolicy } := by
  let opened := d.within [⟨.configSection, policies⟩]
  have hempty : opened.policies = [] := hnone
  have hblocks := leads_policyBlocks (d := opened) hfamily rfl hr.each hr.ids fun p _ => by
    rw [IsNew, hempty]
    exact List.not_mem_nil
  rw [hempty, List.nil_append] at hblocks
  rw [policySection_none]
  exact leads_sectionBlock (e := { d with policies := r.policies.map readPolicy }) hfamily hfamily
    (.inr (.inl rfl)) htop htop hblocks

end Lines

/-! ## Printing the listing -/

section Printing

variable {d : Device}

theorem feed_not_mem_policyBlock {p : Policy} (hp : ListablePolicy p) :
    ∀ line ∈ policyBlock p, '\n' ∉ line.toList := by
  have hquoted : ∀ {start text : String}, '\n' ∉ start.toList → '\n' ∉ text.toList →
      '\n' ∉ (start ++ text ++ "\"").toList := fun hstart htext =>
    Text.feed_not_mem_append (Text.feed_not_mem_append hstart htext) (by decide)
  unfold policyBlock
  simp only [List.forall_mem_cons]
  refine ⟨?_, ?_, ?_, ?_, ?_, ?_, ?_, ?_, by decide, List.forall_mem_nil _⟩
  · exact Text.feed_not_mem_append (by decide) (Text.feed_not_mem_toString p.id.toNat)
  · exact hquoted (by decide) hp.name.2.feed_not_mem
  · exact hquoted (by decide) hp.fromZone.feed_not_mem
  · exact hquoted (by decide) hp.toZone.feed_not_mem
  · exact hquoted (by decide) (isName_addressName hp.source.1).feed_not_mem
  · exact hquoted (by decide) (isName_addressName hp.destination.1).feed_not_mem
  · cases p.action <;> decide
  · exact hquoted (by decide) (isName_serviceName hp.selector).feed_not_mem

theorem feed_not_mem_policySection (h : ListablePolicies d) :
    ∀ line ∈ policySection d none, '\n' ∉ line.toList := by
  rw [policySection_none]
  refine feed_not_mem_sectionBlock (by decide) (List.forall_mem_map.mpr fun p hp => ?_)
  exact feed_not_mem_policyBlock (h.each p hp)

theorem interpret_showPolicies (hfamily : d.family = .fortinet) (devices : Inventory) :
    d.interpret devices "show firewall policy" =
      (Dialect.echo "show firewall policy" d).logAll (policySection d none) := by
  have hwords : Text.words "show firewall policy" = ["show", "firewall", "policy"] := by decide
  have hdispatch : dispatch d.mode d.context ["show", "firewall", "policy"] table =
      .done (.command .showPolicies) :=
    (dispatch_listing d.mode d.context "firewall" "policy").trans rfl
  exact Dialect.interpret_of_command (speaks hfamily) hwords (by decide) (by decide) hdispatch
    devices

end Printing

/-! ## Replay -/

/-- A device of the family without policies, at the top of the hierarchy. -/
structure WithoutPolicies (d : Device) : Prop where
  family : d.family = .fortinet
  policies : d.policies = []
  context : d.context = []

theorem WithoutPolicies.listable {d : Device} (h : WithoutPolicies d) : ListablePolicies d where
  each := h.policies ▸ List.forall_mem_nil _
  ids := h.policies ▸ List.nodup_nil

/-- **Replay of policies.** Enter any lines on a device without policies, and then have it list its
    policies. `set service` reads each listed service back, but for all of TCP and all of UDP: the
    words `tcp` and `udp` are in no table. So whoever types the listing, line by line, on another
    device without policies gets the same policies in the same order, except that those of the two
    services are left without a protocol. -/
theorem policies_replay (d e : Device) (hd : WithoutPolicies d) (he : WithoutPolicies e)
    (lines : List (Inventory × String)) (devices : Inventory) :
    let r := d.run (lines.map fun l => (l.1, .line l.2))
    let shown := r.interpret devices "show firewall policy"
    (∀ p ∈ r.policies, selector? (serviceName p) =
      if isWholeTransport p then none else some (p.protocol, p.port)) ∧
    ∃ listing : List String,
      shown.history = (Dialect.echo "show firewall policy" r).history ++ listing ∧
      ∀ typed : List (Inventory × Action), typed.map Prod.snd = listing.map .line →
        let s := e.run typed
        s.policies = r.policies.map readPolicy ∧
        (s.policies = r.policies ↔ ∀ p ∈ r.policies, isWholeTransport p = false) := by
  intro r shown
  have hr : ListablePolicies r := listablePolicies_lines hd.listable hd.family lines
  have hfamily : r.family = .fortinet := (d.family_run _).trans hd.family
  have hshown : shown = (Dialect.echo "show firewall policy" r).logAll (policySection r none) :=
    interpret_showPolicies hfamily devices
  refine ⟨fun p hp => selector?_serviceName (hr.each p hp).selector, policySection r none, ?_,
    fun typed htyped => ?_⟩
  · rw [hshown, history_logAll, flatMap_logLines (feed_not_mem_policySection hr)]
  · intro s
    have hleads := leads_policySection hr he.family he.context he.policies
    have hs : s.policies = r.policies.map readPolicy :=
      eq_of_forget Device.policies (fun _ => rfl) (hleads.forget_run htyped)
    have hsame : r.policies.map readPolicy = r.policies ↔ ∀ p ∈ r.policies, readPolicy p = p := by
      simpa using List.map_inj_left (l := r.policies) (f := readPolicy) (g := id)
    refine ⟨hs, ?_⟩
    rw [hs, hsame]
    exact forall₂_congr fun p _ => readPolicy_eq_self_iff

/-- A service is listed by the name of the protocol with its selectors, and the address of all
    sources by its word. -/
theorem policies_replay_http :
    let d : Device := { id := "fw", name := "fw", kind := .firewall, vendor := .fortinet }
    let e : Device := { d with id := "spare", name := "spare" }
    let lines : List String :=
      ["config firewall policy", "edit 7", "set name \"to web\"", "set dstaddr web",
        "set service http"]
    let r := d.run (lines.map fun text => (SortedMap.empty, .line text))
    WithoutPolicies d ∧ WithoutPolicies e ∧ ∃ typed : List (Inventory × Action),
      (e.run typed).policies = r.policies ∧
      r.policies = [{ blankPolicy 7 with
        name := "to web", destination := "web", protocol := some .tcp, port := some 80 }] := by
  intro d e lines r
  have hd : WithoutPolicies d := ⟨rfl, rfl, rfl⟩
  have he : WithoutPolicies e := ⟨rfl, rfl, rfl⟩
  have hmade : r.policies = [{ blankPolicy 7 with
      name := "to web", destination := "web", protocol := some .tcp, port := some 80 }] := by
    decide +kernel
  obtain ⟨_, listing, _, hreplay⟩ := policies_replay d e hd he
    (lines.map fun text => (SortedMap.empty, text)) SortedMap.empty
  obtain ⟨_, hsame⟩ :=
    hreplay (listing.map fun text => (SortedMap.empty, .line text)) List.map_map
  refine ⟨hd, he, _, hsame.mpr ?_, hmade⟩
  show ∀ p ∈ r.policies, isWholeTransport p = false
  rw [hmade]
  decide

/-- All of TCP is listed as `tcp`, which `set service` refuses. -/
theorem policies_replay_loses_tcp :
    let d : Device := { id := "fw", name := "fw", kind := .firewall, vendor := .fortinet }
    let e : Device := { d with id := "spare", name := "spare" }
    let lines : List String := ["config firewall policy", "edit 1", "set service ALL_TCP"]
    let r := d.run (lines.map fun text => (SortedMap.empty, .line text))
    let s := e.run ((policySection r none).map fun text => (SortedMap.empty, .line text))
    WithoutPolicies d ∧ WithoutPolicies e ∧
      "        set service \"tcp\"" ∈ policySection r none ∧ selector? "tcp" = none ∧
      s.policies ≠ r.policies := by
  intro d e lines r s
  refine ⟨⟨rfl, rfl, rfl⟩, ⟨rfl, rfl, rfl⟩, ?_⟩
  decide +kernel

end TrainingLab.FortiOs
