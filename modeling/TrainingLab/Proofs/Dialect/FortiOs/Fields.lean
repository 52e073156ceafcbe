import TrainingLab.Proofs.Dialect.FortiOs.InterfaceChange
import TrainingLab.Proofs.Dialect.FortiOs.Nesting

/-
  The lines that set a field of an open interface or policy. Behind the rules for the fields there
  is one that takes whatever begins with `set` and does nothing. It is for settings that are not
  modelled, but it also takes what the rule for a field has left: words that are no address, and
  more words than the field has room for. Such a line is accepted, and the value is lost.

  Where the rule for the field has the words, the value is set or turned down. The words of an alias
  or of a name are joined; of several services the first one counts.

  A device may have been given several policies of one id. The settings are then those of the first
  of them, and that there is one is kept along all lines (`holds_lines`).

  Proved:
  * `InterfaceField.means_outcome`, `PolicyField.means_outcome`: what the table makes of the words.
  * `InterfaceField.outcome_eq_lost_iff`, `PolicyField.outcome_eq_lost_iff`: which words are lost.
  * `fields_set`: what becomes of every line that sets a field, after every run of lines.
  * `fields_set_lost`: a mask that is none.
-/

namespace TrainingLab.FortiOs

open Grammar Device

/-! ## Outcomes -/

/-- What becomes of the words for a field: they are a change of it, or they are turned down, or they
    are lost. -/
inductive Outcome (α : Type)
  | change (c : α)
  | refused (text : String)
  | lost
deriving DecidableEq

namespace Outcome

variable {α : Type}

/-- Words that denote no change are turned down with the text, if there is one. -/
def ofRead (read : Option α) (refusal : Option String) : Outcome α :=
  match read, refusal with
  | some c, _ => change c
  | none, some text => refused text
  | none, none => lost

/-- The device after the outcome: changed, or with the text printed, or as it is. -/
def device (o : Outcome α) (changed : α → Device) (d : Device) : Device :=
  match o with
  | change c => changed c
  | refused text => d.log text
  | lost => d

theorem ofRead_eq_lost_iff {read : Option α} {refusal : Option String} :
    ofRead read refusal = lost ↔ read = none ∧ refusal = none := by
  cases read <;> cases refusal <;> simp [ofRead]

end Outcome

/-! ## Fields of an interface -/

/-- The fields of an interface that a line can set. -/
inductive InterfaceField
  | address
  | up
  | description
  | zone
deriving DecidableEq

namespace InterfaceField

/-- The word for the field. -/
def word : InterfaceField → String
  | address => "ip"
  | up => "status"
  | description => "alias"
  | zone => "zone"

/-- The change that the words denote. An address is followed by its dotted mask, or in the same word
    by a slash and a mask in any notation. -/
def read? : InterfaceField → List String → Option InterfaceChange
  | address, [ip, mask] =>
    if ArgumentKind.address.accepts ip && ArgumentKind.mask.accepts mask then
      some (.address ip mask)
    else none
  | address, [cidr] =>
    (Text.splitFirst? (· == '/') cidr).bind fun (ip, mask) =>
      if (Network.Address.ofText? ip).isSome && (Network.readMask? mask).isSome then
        some (.address ip mask)
      else none
  | up, [status] =>
    match status with
    | "up" => some (.up true)
    | "down" => some (.up false)
    | _ => none
  | description, words => some (.description (some (Text.unquote (Text.joinWith " " words))))
  | zone, [word] => some (.zone (some (Text.unquote word)))
  | _, _ => none

/-- What turns down words that denote no change. -/
def refusal? : InterfaceField → List String → Option String
  | up, [_] => some parseError
  | _, _ => none

/-- What becomes of the words. -/
def outcome (f : InterfaceField) (words : List String) : Outcome InterfaceChange :=
  .ofRead (f.read? words) (f.refusal? words)

end InterfaceField

/-! ## Fields of a policy -/

/-- A change of one policy. -/
inductive PolicyChange
  | name (name : String)
  | fromZone (zone : String)
  | toZone (zone : String)
  | source (address : String)
  | destination (address : String)
  | action (action : PolicyAction)
  | service (protocol : Option Transport) (port : Option UInt16)
deriving DecidableEq

/-- The policy after the change. -/
def PolicyChange.apply (c : PolicyChange) (p : Policy) : Policy :=
  match c with
  | .name text => { p with name := text }
  | .fromZone zone => { p with fromZone := zone }
  | .toZone zone => { p with toZone := zone }
  | .source address => { p with source := address }
  | .destination address => { p with destination := address }
  | .action decision => { p with action := decision }
  | .service protocol port => { p with protocol, port }

/-- The fields of a policy that a line can set. -/
inductive PolicyField
  | name
  | fromZone
  | toZone
  | source
  | destination
  | action
  | service
deriving DecidableEq

namespace PolicyField

/-- The word for the field. -/
def word : PolicyField → String
  | name => "name"
  | fromZone => "srcintf"
  | toZone => "dstintf"
  | source => "srcaddr"
  | destination => "dstaddr"
  | action => "action"
  | service => "service"

/-- The change that the words denote. Of several services the first one counts. -/
def read? : PolicyField → List String → Option PolicyChange
  | name, words => some (.name (Text.unquote (Text.joinWith " " words)))
  | fromZone, [zone] => some (.fromZone (Text.unquote zone))
  | toZone, [zone] => some (.toZone (Text.unquote zone))
  | source, [address] => some (.source (readAddress address))
  | destination, [address] => some (.destination (readAddress address))
  | action, [decision] =>
    match Text.lower decision with
    | "accept" => some (.action .allow)
    | "deny" => some (.action .deny)
    | _ => none
  | service, first :: _ =>
    (selector? (Text.unquote first)).map fun (protocol, port) => .service protocol port
  | _, _ => none

/-- What turns down words that denote no change. -/
def refusal? : PolicyField → List String → Option String
  | action, [_] => some parseError
  | service, _ => some notFound
  | _, _ => none

/-- What becomes of the words. -/
def outcome (f : PolicyField) (words : List String) : Outcome PolicyChange :=
  .ofRead (f.read? words) (f.refusal? words)

end PolicyField

/-! ## Lost words -/

/-- Lost are words that are no address with a mask, and more than one word for the status or the
    zone. -/
theorem InterfaceField.outcome_eq_lost_iff {f : InterfaceField} {words : List String}
    (hne : words ≠ []) :
    f.outcome words = .lost ↔
      f = .address ∧ f.read? words = none ∨ f ∈ [.up, .zone] ∧ 1 < words.length := by
  rw [outcome, Outcome.ofRead_eq_lost_iff]
  match words with
  | [word] =>
    cases f with
    | address => simp [refusal?]
    | up => simp [refusal?]
    | description => simp [read?]
    | zone => simp [read?]
  | word :: other :: rest =>
    cases f with
    | address => simp [refusal?]
    | up => simp [read?, refusal?]
    | description => simp [read?]
    | zone => simp [read?, refusal?]

/-- Lost are all words, if there is more than one, unless they are a name or services. -/
theorem PolicyField.outcome_eq_lost_iff {f : PolicyField} {words : List String}
    (hne : words ≠ []) :
    f.outcome words = .lost ↔ f ∉ [.name, .service] ∧ 1 < words.length := by
  rw [outcome, Outcome.ofRead_eq_lost_iff]
  match words with
  | [word] => cases f <;> simp [read?, refusal?]
  | word :: other :: rest => cases f <;> simp [read?, refusal?]

/-! ## What the table makes of the words -/

/-- Inside these objects, the words are a command that does to every device what `f` does. -/
def Means (context : List Frame) (tokens : List String) (f : Device → Device) : Prop :=
  ∀ mode, ∃ c : Command, dispatch mode context tokens table = .done (.command c) ∧
    ∀ devices, c.run devices = f

theorem interpret_of_means {d : Device} (hfamily : d.family = .fortinet) {line : String}
    {rest : List String} (hwords : Text.words line = "set" :: rest) {f : Device → Device}
    (h : Means d.context ("set" :: rest) f) (devices : Inventory) :
    d.interpret devices line = f (Dialect.echo line d) := by
  obtain ⟨c, hdispatch, hrun⟩ := h d.mode
  rw [Dialect.interpret_of_command (speaks hfamily) hwords (by decide) (by decide) hdispatch]
  exact congrFun (hrun devices) _

/-- The stack inside an interface. -/
def interfaceFrames (name : String) : List Frame :=
  [⟨.interface, name⟩, ⟨.configSection, interfaces⟩]

/-- The stack inside a policy. -/
def policyFrames (id : String) : List Frame :=
  [⟨.policyObject, id⟩, ⟨.configSection, policies⟩]

/-- The outcome for the open interface. -/
def Outcome.ofInterface (o : Outcome InterfaceChange) (d : Device) : Device :=
  o.device (fun c => editInterface c.apply d) d

/-- The outcome for the open policy. -/
def Outcome.ofPolicy (o : Outcome PolicyChange) (d : Device) : Device :=
  o.device (fun c => editPolicy c.apply d) d

section Words

variable {words : List String}

/-- Words that are no address with a mask, in one word or in two, are left to the rule that does
    nothing. -/
theorem means_ip_of_neither (hne : words ≠ [])
    (hmasked : ∀ ip mask, words = [ip, mask] →
      ¬ (ArgumentKind.address.accepts ip = true ∧ ArgumentKind.mask.accepts mask = true))
    (hcidr : ∀ cidr, words = [cidr] → ¬ ArgumentKind.cidr.accepts cidr = true) (name : String) :
    Means (interfaceFrames name) ("set" :: "ip" :: words) (Outcome.ofInterface .lost) := by
  have hfirst : ((Pattern.ofText "set ip <ip> <mask>").matches
      ("set" :: "ip" :: words)).isFull = false := by
    refine Bool.eq_false_iff.mpr fun hfull => ?_
    obtain ⟨ip, mask, rfl, haccepts⟩ := isFull_masked_iff.mp hfull
    exact hmasked ip mask rfl haccepts
  have hsecond : ((Pattern.ofText "set ip <cidr>").matches
      ("set" :: "ip" :: words)).isFull = false := by
    refine Bool.eq_false_iff.mpr fun hfull => ?_
    obtain ⟨cidr, rfl, haccepts⟩ := isFull_cidr_iff.mp hfull
    exact hcidr cidr rfl haccepts
  obtain ⟨word, rest, rfl⟩ := List.exists_cons_of_ne_nil hne
  refine fun mode => ⟨.accept, ?_, fun _ => rfl⟩
  have hskip : dispatch mode (interfaceFrames name) ("set" :: "ip" :: word :: rest)
      (table.takeWhile fun r => r.scope != .inObject interfaces) = .unknown := rfl
  rw [dispatch_fromScope (.inObject interfaces) hskip]
  refine dispatch_cons_of_not_full (r := inside _ _ _) hfirst ?_
  refine dispatch_cons_of_not_full (r := inside _ _ _) hsecond ?_
  rfl

theorem exists_read_of_cidr {cidr : String} (h : ArgumentKind.cidr.accepts cidr = true) :
    ∃ ip mask, Text.splitFirst? (· == '/') cidr = some (ip, mask) ∧
      InterfaceField.address.read? [cidr] = some (.address ip mask) := by
  rw [ArgumentKind.accepts] at h
  rw [InterfaceField.read?]
  cases hsplit : Text.splitFirst? (· == '/') cidr with
  | none =>
    rw [hsplit] at h
    cases h
  | some parts =>
    rw [hsplit] at h
    exact ⟨parts.1, parts.2, rfl, if_pos h⟩

theorem read?_of_not_cidr {cidr : String} (h : ¬ ArgumentKind.cidr.accepts cidr = true) :
    InterfaceField.address.read? [cidr] = none := by
  rw [ArgumentKind.accepts] at h
  rw [InterfaceField.read?]
  cases hsplit : Text.splitFirst? (· == '/') cidr with
  | none => rfl
  | some parts =>
    rw [hsplit] at h
    exact if_neg h

/-- One word for an address. -/
theorem means_ip_word (name cidr : String) :
    Means (interfaceFrames name) ["set", "ip", cidr]
      (InterfaceField.address.outcome [cidr]).ofInterface := by
  by_cases haccepts : ArgumentKind.cidr.accepts cidr = true
  · obtain ⟨ip, mask, hsplit, hread⟩ := exists_read_of_cidr haccepts
    refine fun mode => ⟨.setCidr cidr, dispatch_setCidr haccepts, fun devices => funext fun d => ?_⟩
    have hset : ∀ i : Interface, i.setCidr cidr = (InterfaceChange.address ip mask).apply i := by
      intro i
      rw [Interface.setCidr, hsplit]
      rfl
    rw [InterfaceField.outcome, hread]
    exact congrArg (fun g => editInterface g d) (funext hset)
  · have hlost : InterfaceField.address.outcome [cidr] = .lost := by
      rw [InterfaceField.outcome, read?_of_not_cidr haccepts]
      rfl
    rw [hlost]
    refine means_ip_of_neither (List.cons_ne_nil cidr []) ?_ ?_ name
    · rintro _ _ ⟨⟩
    · rintro _ ⟨⟩
      exact haccepts

/-- Two words for an address. -/
theorem means_ip_words (name ip mask : String) :
    Means (interfaceFrames name) ["set", "ip", ip, mask]
      (InterfaceField.address.outcome [ip, mask]).ofInterface := by
  by_cases haccepts : (ArgumentKind.address.accepts ip && ArgumentKind.mask.accepts mask) = true
  · have hread : InterfaceField.address.outcome [ip, mask] = .change (.address ip mask) := by
      rw [InterfaceField.outcome, InterfaceField.read?, if_pos haccepts, Outcome.ofRead]
    obtain ⟨hip, hmask⟩ := Bool.and_eq_true_iff.mp haccepts
    rw [hread]
    exact fun mode => ⟨.setAddress ip mask, dispatch_setAddress hip hmask, fun _ => rfl⟩
  · have hlost : InterfaceField.address.outcome [ip, mask] = .lost := by
      rw [InterfaceField.outcome, InterfaceField.read?, if_neg haccepts]
      rfl
    rw [hlost]
    refine means_ip_of_neither (List.cons_ne_nil ip [mask]) ?_ ?_ name
    · rintro _ _ ⟨⟩
      exact fun h => haccepts (Bool.and_eq_true_iff.mpr h)
    · rintro _ ⟨⟩

theorem means_ip (name : String) (hne : words ≠ []) :
    Means (interfaceFrames name) ("set" :: "ip" :: words)
      (InterfaceField.address.outcome words).ofInterface := by
  obtain ⟨first, rest, rfl⟩ := List.exists_cons_of_ne_nil hne
  cases rest with
  | nil => exact means_ip_word name first
  | cons second rest =>
    cases rest with
    | nil => exact means_ip_words name first second
    | cons third rest =>
      refine means_ip_of_neither hne ?_ ?_ name
      · rintro _ _ ⟨⟩
      · rintro _ ⟨⟩

theorem InterfaceField.means_outcome (f : InterfaceField) (name : String) (hne : words ≠ []) :
    Means (interfaceFrames name) ("set" :: f.word :: words) (f.outcome words).ofInterface := by
  intro mode
  obtain ⟨word, rest, rfl⟩ := List.exists_cons_of_ne_nil hne
  cases f with
  | address => exact means_ip name hne mode
  | up =>
    cases rest with
    | nil =>
      refine ⟨.setStatus word, rfl, fun devices => ?_⟩
      funext d
      rw [Command.run]
      unfold setStatus
      split
      next => rfl
      next => rfl
      next => simp [outcome, read?, refusal?, Outcome.ofRead, Outcome.ofInterface, Outcome.device]
    | cons other rest => exact ⟨.accept, rfl, fun _ => rfl⟩
  | description =>
    exact ⟨.setAlias (some (Text.joinWith " " (word :: rest))), rfl, fun _ => rfl⟩
  | zone =>
    cases rest with
    | nil => exact ⟨.setZone (some word), rfl, fun _ => rfl⟩
    | cons other rest => exact ⟨.accept, rfl, fun _ => rfl⟩

theorem means_action (id word : String) :
    Means (policyFrames id) ["set", "action", word]
      (PolicyField.action.outcome [word]).ofPolicy := by
  intro mode
  refine ⟨.setAction word, rfl, fun devices => ?_⟩
  funext d
  rw [Command.run]
  unfold setAction PolicyField.outcome PolicyField.read?
  split
  next heq =>
    simp only [heq]
    rfl
  next heq =>
    simp only [heq]
    rfl
  next => simp [PolicyField.refusal?, Outcome.ofRead, Outcome.ofPolicy, Outcome.device]

theorem means_service (id : String) {word : String} {rest : List String}
    (hwords : ∀ w ∈ word :: rest, Text.IsWord w) :
    Means (policyFrames id) ("set" :: "service" :: word :: rest)
      (PolicyField.service.outcome (word :: rest)).ofPolicy := by
  have hfirst : ((Text.words (Text.joinWith " " (word :: rest))).head?.map
      Text.unquote).getD "" = Text.unquote word := by
    rw [Text.words_joinWith hwords, List.head?_cons, Option.map_some, Option.getD_some]
  have hset : setService (Text.joinWith " " (word :: rest)) =
      (PolicyField.service.outcome (word :: rest)).ofPolicy := by
    funext d
    unfold setService PolicyField.outcome PolicyField.read?
    simp only [hfirst]
    cases selector? (Text.unquote word) with
    | some selectors => rfl
    | none => rfl
  exact fun mode => ⟨.setService (Text.joinWith " " (word :: rest)), rfl, fun _ => hset⟩

theorem PolicyField.means_outcome (f : PolicyField) (id : String) (hne : words ≠ [])
    (hwords : ∀ w ∈ words, Text.IsWord w) :
    Means (policyFrames id) ("set" :: f.word :: words) (f.outcome words).ofPolicy := by
  obtain ⟨word, rest, rfl⟩ := List.exists_cons_of_ne_nil hne
  cases rest with
  | nil =>
    cases f with
    | name => exact fun _ => ⟨.setName word, rfl, fun _ => rfl⟩
    | fromZone => exact fun _ => ⟨.setFromZone word, rfl, fun _ => rfl⟩
    | toZone => exact fun _ => ⟨.setToZone word, rfl, fun _ => rfl⟩
    | source => exact fun _ => ⟨.setSource word, rfl, fun _ => rfl⟩
    | destination => exact fun _ => ⟨.setDestinationAddress word, rfl, fun _ => rfl⟩
    | action => exact means_action id word
    | service => exact means_service id hwords
  | cons other rest =>
    cases f with
    | name =>
      exact fun _ => ⟨.setName (Text.joinWith " " (word :: other :: rest)), rfl, fun _ => rfl⟩
    | service => exact means_service id hwords
    | _ => exact fun _ => ⟨.accept, rfl, fun _ => rfl⟩

end Words

/-! ## Lines -/

/-- The first policy of an id is changed in its place. -/
theorem exists_editFirst {id : UInt32} {l : List Policy} (h : id ∈ l.map Policy.id) :
    ∃ before p after, l = before ++ p :: after ∧ p.id = id ∧ (∀ q ∈ before, q.id ≠ id) ∧
      ∀ f, editFirst id f l = before ++ f p :: after := by
  induction l with
  | nil => cases h
  | cons p rest ih =>
    by_cases hp : p.id = id
    · exact ⟨[], p, rest, rfl, hp, List.forall_mem_nil _, fun f => by
        rw [editFirst, if_pos hp, List.nil_append]⟩
    · have hrest : id ∈ rest.map Policy.id :=
        (List.mem_cons.mp h).resolve_left fun heq => hp heq.symm
      obtain ⟨before, q, after, hsplit, hq, hbefore, hedit⟩ := ih hrest
      refine ⟨p :: before, q, after, congrArg (p :: ·) hsplit, hq,
        List.forall_mem_cons.mpr ⟨hp, hbefore⟩, fun f => ?_⟩
      rw [editFirst, if_neg hp, hedit, List.cons_append]

theorem editPolicy_of_mem {d : Device} {id : UInt32}
    (hname : d.frameName? .policyObject = some (toString id)) (hid : id ∈ d.policies.map Policy.id)
    (f : Policy → Policy) :
    editPolicy f d = { d with policies := editFirst id f d.policies } := by
  obtain ⟨p, hp, hpid⟩ := List.mem_map.mp hid
  have hany : (d.policies.any fun q => q.id == id) = true :=
    List.any_eq_true.mpr ⟨p, hp, beq_iff_eq.mpr hpid⟩
  rw [editPolicy, hname, Option.bind_some, Text.readUInt32?_toString]
  exact if_pos hany

section Interpret

variable {r : Device} (hfamily : r.family = .fortinet) (hr : Holds r)

include hfamily hr

/-- The outcome of a line for a field of the open interface. -/
theorem interpret_interfaceField {name : String} (hframe : r.frame? = some ⟨.interface, name⟩)
    (devices : Inventory) {line : String} (f : InterfaceField) {words : List String}
    (hne : words ≠ []) (hwords : Text.words line = "set" :: f.word :: words) :
    r.interpret devices line =
      (f.outcome words).device (fun c => (Dialect.echo line r).editInterface name c.apply)
        (Dialect.echo line r) := by
  obtain ⟨hcontext, _⟩ := hr.eq_of_head (k := .interface) hframe
  have hmeans : Means r.context ("set" :: f.word :: words) (f.outcome words).ofInterface :=
    hcontext ▸ f.means_outcome name hne
  let e := Dialect.echo line r
  have hname : e.frameName? .interface = some name := frameName?_of_cons (d := e) hcontext
  have hedit : ∀ g, editInterface g e = e.editInterface name g := fun g => by
    rw [editInterface, hname]
  refine (interpret_of_means hfamily hwords hmeans devices).trans ?_
  exact congrArg (fun changed => (f.outcome words).device changed e)
    (funext fun c => hedit c.apply)

/-- The open policy is the first one of its id, and it is the one that the lines for its fields
    change. -/
theorem interpret_policyField {id : String} (hframe : r.frame? = some ⟨.policyObject, id⟩) :
    ∃ before p after, r.policies = before ++ p :: after ∧ toString p.id = id ∧
      (∀ q ∈ before, q.id ≠ p.id) ∧
      ∀ devices line (f : PolicyField) words, words ≠ [] →
        Text.words line = "set" :: f.word :: words →
        r.interpret devices line =
          (f.outcome words).device
            (fun c => { Dialect.echo line r with policies := before ++ c.apply p :: after })
            (Dialect.echo line r) := by
  obtain ⟨hcontext, hthere⟩ := hr.eq_of_head (k := .policy) hframe
  obtain ⟨n, rfl, hn⟩ := hthere rfl
  obtain ⟨before, p, after, hsplit, rfl, hbefore, hfirst⟩ := exists_editFirst hn
  refine ⟨before, p, after, hsplit, rfl, hbefore, fun devices line f words hne hwords => ?_⟩
  have hare : ∀ w ∈ words, Text.IsWord w := fun w hw =>
    areWords_words line w (by rw [hwords]; simp [hw])
  have hmeans : Means r.context ("set" :: f.word :: words) (f.outcome words).ofPolicy :=
    hcontext ▸ f.means_outcome (toString p.id) hne hare
  let e := Dialect.echo line r
  have hname : e.frameName? .policyObject = some (toString p.id) :=
    frameName?_of_cons (d := e) hcontext
  have hedit : ∀ g, editPolicy g e = { e with policies := before ++ g p :: after } := fun g =>
    (editPolicy_of_mem (d := e) hname hn g).trans
      (congrArg (fun l => { e with policies := l }) (hfirst g))
  refine (interpret_of_means hfamily hwords hmeans devices).trans ?_
  exact congrArg (fun changed => (f.outcome words).device changed e)
    (funext fun c => hedit c.apply)

end Interpret

/-- **Fields on FortiOS.** Enter any lines on a device of the family on which no object is open. If
    an interface or a policy is open then, take a line that sets one of its fields to some words.
    Behind the echo, one of three things happens: what the words denote becomes the value of the
    field, in the interface of this name or in the first policy of this id, and nothing else
    changes; or a text is printed that turns the words down, and nothing changes; or the words are
    lost, nothing changes and nothing is printed. Lost are the words for an address that are none,
    and more than one word for a field that takes one. -/
theorem fields_set {d : Device} (hfamily : d.family = .fortinet) (htop : d.context = [])
    (lines : List (Inventory × String)) :
    let r := d.enterLines lines
    (∀ name, r.frame? = some ⟨.interface, name⟩ →
      ∀ devices line (f : InterfaceField) words, words ≠ [] →
        Text.words line = "set" :: f.word :: words →
        r.interpret devices line =
          (f.outcome words).device (fun c => (Dialect.echo line r).editInterface name c.apply)
            (Dialect.echo line r) ∧
        (f.outcome words = .lost ↔
          f = .address ∧ f.read? words = none ∨ f ∈ [.up, .zone] ∧ 1 < words.length)) ∧
    (∀ id, r.frame? = some ⟨.policyObject, id⟩ →
      ∃ before p after, r.policies = before ++ p :: after ∧ toString p.id = id ∧
        (∀ q ∈ before, q.id ≠ p.id) ∧
        ∀ devices line (f : PolicyField) words, words ≠ [] →
          Text.words line = "set" :: f.word :: words →
          r.interpret devices line =
            (f.outcome words).device
              (fun c => { Dialect.echo line r with policies := before ++ c.apply p :: after })
              (Dialect.echo line r) ∧
          (f.outcome words = .lost ↔ f ∉ [.name, .service] ∧ 1 < words.length)) := by
  intro r
  have hfortinet : r.family = .fortinet := (d.family_run _).trans hfamily
  have hstart : Holds d := by
    unfold Holds
    rw [htop]
    exact .top
  have hr : Holds r := holds_lines hfamily hstart lines
  constructor
  · intro name hframe devices line f words hne hwords
    exact ⟨interpret_interfaceField hfortinet hr hframe devices f hne hwords,
      InterfaceField.outcome_eq_lost_iff hne⟩
  · intro id hframe
    obtain ⟨before, p, after, hsplit, hid, hbefore, hlines⟩ :=
      interpret_policyField hfortinet hr hframe
    exact ⟨before, p, after, hsplit, hid, hbefore, fun devices line f words hne hwords =>
      ⟨hlines devices line f words hne hwords, PolicyField.outcome_eq_lost_iff hne⟩⟩

/-- A firewall on which nothing is configured. -/
def bareFirewall : Device := { id := "fw", name := "FW", kind := .firewall, vendor := .fortinet }

/-- The lines that open its first port. -/
def portOneLines : List (Inventory × String) :=
  ["config system interface", "edit port1"].map fun text => (SortedMap.empty, text)

theorem frame?_portOne :
    (bareFirewall.enterLines portOneLines).frame? = some ⟨.interface, "port1"⟩ := by
  decide +kernel

/-- A status that is none is turned down, an address with its mask is set. -/
theorem fields_set_portOne :
    let r := bareFirewall.enterLines portOneLines
    r.interpret SortedMap.empty "set status sideways" =
        (Dialect.echo "set status sideways" r).log parseError ∧
      r.interpret SortedMap.empty "set ip 10.0.0.1 255.255.255.0" =
        (Dialect.echo "set ip 10.0.0.1 255.255.255.0" r).editInterface "port1" fun i =>
          i.setAddress "10.0.0.1" "255.255.255.0" := by
  intro r
  have hset := (fields_set (d := bareFirewall) rfl rfl portOneLines).1 "port1" frame?_portOne
    SortedMap.empty
  have hrefused := (hset "set status sideways" .up ["sideways"] (by decide) (by decide)).1
  have haddressed := (hset "set ip 10.0.0.1 255.255.255.0" .address ["10.0.0.1", "255.255.255.0"]
    (by decide) (by decide)).1
  have houtcome : InterfaceField.address.outcome ["10.0.0.1", "255.255.255.0"] =
      .change (.address "10.0.0.1" "255.255.255.0") := by decide +kernel
  rw [houtcome] at haddressed
  exact ⟨hrefused, haddressed⟩

/-- An address with a mask that is none is lost: the port stays without an address, and no text says
    so. -/
theorem fields_set_lost :
    let r := bareFirewall.enterLines portOneLines
    let after := r.interpret SortedMap.empty "set ip 10.0.0.1 255.0.255.0"
    r.frame? = some ⟨.interface, "port1"⟩ ∧
      after = Dialect.echo "set ip 10.0.0.1 255.0.255.0" r ∧
      after.interfaces.find? "port1" = some {} := by
  have hr : Holds (bareFirewall.enterLines portOneLines) :=
    holds_lines (d := bareFirewall) rfl .top portOneLines
  have hfamily : (bareFirewall.enterLines portOneLines).family = .fortinet :=
    bareFirewall.family_run _
  have hport : (bareFirewall.enterLines portOneLines).interfaces.find? "port1" = some {} := by
    decide +kernel
  have hlost : InterfaceField.address.outcome ["10.0.0.1", "255.0.255.0"] = .lost := by
    decide +kernel
  have hwords : Text.words "set ip 10.0.0.1 255.0.255.0" =
      "set" :: InterfaceField.address.word :: ["10.0.0.1", "255.0.255.0"] := by decide
  have hafter := interpret_interfaceField hfamily hr frame?_portOne SortedMap.empty .address
    (by decide) hwords
  have hkept : ∀ r : Device, (Dialect.echo "set ip 10.0.0.1 255.0.255.0" r).interfaces =
      r.interfaces := fun _ => rfl
  rw [hlost, Outcome.device] at hafter
  refine ⟨frame?_portOne, hafter, ?_⟩
  rw [hafter, hkept]
  exact hport

end TrainingLab.FortiOs
