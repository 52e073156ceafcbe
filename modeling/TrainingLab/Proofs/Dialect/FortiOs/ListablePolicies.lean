import TrainingLab.Proofs.Dialect.FortiOs.Listable
import TrainingLab.Proofs.Dialect.FortiOs.Nesting
import TrainingLab.Proofs.Dialect.Typing

/-
  What the listing of policies relies on. Names, zones and addresses are put between quotes as they
  are; the protocol and the port are listed as one word, the name of a service. `set service` reads
  such a word by the table of the predefined services, so what it can select is one of a few pairs.
  Of these, all of TCP and all of UDP are listed by a word that is in no table.

  Proved:
  * `selector_mem_of_some`: what a service can select.
  * `selector?_serviceName`: which service is read back from its listed name.
  * `listablePolicies_run`, `listablePolicies_lines`: no command and no run of lines makes a policy
    that cannot be listed.
-/

namespace TrainingLab.FortiOs

open Grammar Device

/-! ## Services -/

/-- What the predefined services select. -/
def selectors : List (Option Transport × Option UInt16) :=
  [(none, none), (some .tcp, none), (some .udp, none), (some .icmp, none)] ++
    Protocol.all.map fun p => (some p.transport, p.port)

/-- What a service selects is one of the few pairs. -/
theorem selector_mem_of_some {name : String} {s : Option Transport × Option UInt16}
    (h : selector? name = some s) : s ∈ selectors := by
  unfold selector? at h
  split at h
  next => exact Option.some.inj h ▸ by decide
  next => exact Option.some.inj h ▸ by decide
  next => exact Option.some.inj h ▸ by decide
  next => exact Option.some.inj h ▸ by decide
  next =>
    obtain ⟨p, _, rfl⟩ := Option.map_eq_some_iff.mp h
    cases p <;> decide

/-- The selectors are all ports of TCP, or all ports of UDP. -/
def isWholeTransport (p : Policy) : Bool :=
  (p.protocol == some .tcp || p.protocol == some .udp) && p.port == none

/-- A policy as `edit` makes it. -/
def blankPolicy (id : UInt32) : Policy :=
  { id, name := "", fromZone := "", toZone := "", action := .deny }

/-- A policy with nothing but selectors. -/
def selecting (s : Option Transport × Option UInt16) : Policy :=
  { blankPolicy 0 with protocol := s.1, port := s.2 }

/-- Nothing but the selectors counts for the name of a service. -/
theorem serviceName_eq (p : Policy) :
    serviceName p = serviceName (selecting (p.protocol, p.port)) := by
  obtain ⟨_, _, _, _, _, _, protocol, port, _, _⟩ := p
  cases protocol <;> rfl

/-- The name of a service is one word without quotes. -/
theorem isName_serviceName {p : Policy} (h : (p.protocol, p.port) ∈ selectors) :
    IsName (serviceName p) := by
  have hall : ∀ s ∈ selectors, Text.Unbroken (serviceName (selecting s)) ∧
      (serviceName (selecting s)).toList.head? ≠ some '\x22' ∧
      (serviceName (selecting s)).toList.getLast? ≠ some '\x22' := by decide
  obtain ⟨hunbroken, hbare⟩ := hall _ h
  rw [serviceName_eq]
  exact ⟨hbare, hunbroken⟩

/-- The listed name of a service is read back, unless it stands for all of TCP or all of UDP. -/
theorem selector?_serviceName {p : Policy} (h : (p.protocol, p.port) ∈ selectors) :
    selector? (serviceName p) =
      if isWholeTransport p then none else some (p.protocol, p.port) := by
  have hall : ∀ s ∈ selectors, selector? (serviceName (selecting s)) =
      if isWholeTransport (selecting s) then none else some s := by decide
  rw [serviceName_eq]
  exact hall _ h

/-! ## Commands from a line -/

/-- The texts that the command has for a policy are as the words of a line leave them. -/
def Command.PolicyFromLine : Command → Prop
  | setName name => Text.Spaced name.toList
  | setFromZone zone => Text.Unbroken zone
  | setToZone zone => Text.Unbroken zone
  | setSource address => Text.Unbroken address
  | setDestinationAddress address => Text.Unbroken address
  | _ => True

theorem table_policyFromLine : ∀ r ∈ table, r.pattern.Regular → ∀ tokens caps, AreWords tokens →
    r.pattern.matches tokens = .full caps →
    ∃ c, r.meaning caps = .command c ∧ c.PolicyFromLine := by
  simp only [table, List.forall_mem_cons]
  repeat' apply And.intro
  all_goals try exact List.forall_mem_nil _
  all_goals intro hp tokens caps hwords h
  all_goals refine ⟨_, rfl, ?_⟩
  all_goals try exact trivial
  -- what is left are the texts of a policy, in the order of the table
  · exact spaced_of_captured hp hwords h "text" (by decide)
  · exact (unbroken_of_captured hp hwords h "zone" .word (by decide)).1
  · exact (unbroken_of_captured hp hwords h "zone" .word (by decide)).1
  · exact (unbroken_of_captured hp hwords h "addr" .word (by decide)).1
  · exact (unbroken_of_captured hp hwords h "addr" .word (by decide)).1

theorem policyFromLine_of_done {mode : Mode} {context : List Frame} {tokens : List String}
    {m : Request Command} (hwords : AreWords tokens)
    (h : dispatch mode context tokens table = .done m) :
    ∃ c, m = .command c ∧ c.PolicyFromLine := by
  obtain ⟨r, caps, hr, hfull, rfl⟩ := dispatch_done_iff.mp h
  have hmem := List.mem_of_find?_eq_some hr
  exact table_policyFromLine r hmem (table_regular r hmem) tokens caps hwords hfull

/-! ## Policies that can be listed -/

/-- Nothing but the service can be lost when the listing of the policy is read. Zero is no id, for
    `edit 0` asks for a new one. -/
structure ListablePolicy (p : Policy) : Prop where
  id : p.id ≠ 0
  name : Text.Bare p.name ∧ Text.Spaced p.name.toList
  fromZone : IsName p.fromZone
  toZone : IsName p.toZone
  source : IsName p.source ∧ p.source ≠ "all"
  destination : IsName p.destination ∧ p.destination ≠ "all"
  selector : (p.protocol, p.port) ∈ selectors
  priority : p.priority = none

namespace ListablePolicy

variable {p : Policy} {address : String}

theorem withSource (h : ListablePolicy p) (haddress : IsName address) (hall : address ≠ "all") :
    ListablePolicy { p with source := address } :=
  { h with source := ⟨haddress, hall⟩ }

theorem withDestination (h : ListablePolicy p) (haddress : IsName address)
    (hall : address ≠ "all") : ListablePolicy { p with destination := address } :=
  { h with destination := ⟨haddress, hall⟩ }

end ListablePolicy

/-- All policies can be listed, and no two have one id. -/
structure ListablePolicies (d : Device) : Prop where
  each : ∀ p ∈ d.policies, ListablePolicy p
  ids : (d.policies.map Policy.id).Nodup

theorem isName_empty : IsName "" := isName_unquote (s := "") (by decide)

theorem isName_any : IsName "any" := isName_unquote (s := "any") (by decide)

theorem readAddress_ne_all (address : String) : readAddress address ≠ "all" := by
  unfold readAddress
  dsimp only
  split
  next => decide
  next h => exact fun hall => h (beq_iff_eq.mpr hall)

theorem isName_readAddress {address : String} (h : Text.Unbroken address) :
    IsName (readAddress address) := by
  unfold readAddress
  dsimp only
  split
  next => exact isName_any
  next => exact isName_unquote h

theorem nextId?_ne_zero {policies : List Policy} {id : UInt32}
    (h : Policy.nextId? policies = some id) : id ≠ 0 := by
  unfold Policy.nextId? at h
  dsimp only at h
  split at h
  next hsmall =>
    obtain rfl := Option.some.inj h
    intro hzero
    have hvalue := congrArg UInt32.toNat hzero
    rw [UInt32.toNat_ofNat_of_lt' hsmall] at hvalue
    exact absurd hvalue (Nat.succ_ne_zero _)
  next => cases h

theorem ListablePolicy.blank {id : UInt32} (h : id ≠ 0) : ListablePolicy (blankPolicy id) where
  id := h
  name := ⟨isName_empty.bare, Text.spaced_of_unbroken isName_empty.unbroken⟩
  fromZone := isName_empty
  toZone := isName_empty
  source := ⟨isName_any, by simp [blankPolicy]⟩
  destination := ⟨isName_any, by simp [blankPolicy]⟩
  selector := List.mem_append_left _ List.mem_cons_self
  priority := rfl

/-! ## Steps -/

namespace ListablePolicies

variable {d d' : Device}

theorem of_same (h : ListablePolicies d) (hsame : d'.policies = d.policies) :
    ListablePolicies d' :=
  ⟨hsame ▸ h.each, hsame ▸ h.ids⟩

theorem of_forget (h : ListablePolicies d) (hsame : d'.forget = d.forget) :
    ListablePolicies d' :=
  h.of_same (eq_of_forget Device.policies (fun _ => rfl) hsame)

theorem logged (h : ListablePolicies d) (text : String) : ListablePolicies (d.log text) :=
  h.of_forget rfl

theorem editPolicy (h : ListablePolicies d) {f : Policy → Policy} (hid : ∀ p, (f p).id = p.id)
    (hf : ∀ p, ListablePolicy p → ListablePolicy (f p)) :
    ListablePolicies (FortiOs.editPolicy f d) := by
  have hfirst : ∀ id (l : List Policy), (∀ p ∈ l, ListablePolicy p) →
      ∀ p ∈ editFirst id f l, ListablePolicy p := by
    intro id l hl
    induction l with
    | nil => exact hl
    | cons q rest ih =>
      obtain ⟨hq, hrest⟩ := List.forall_mem_cons.mp hl
      rw [editFirst]
      split
      next => exact List.forall_mem_cons.mpr ⟨hf q hq, hrest⟩
      next => exact List.forall_mem_cons.mpr ⟨hq, ih hrest⟩
  unfold FortiOs.editPolicy
  split
  next id _ =>
    split
    next => exact ⟨hfirst id _ h.each, (map_id_editFirst hid id d.policies).symm ▸ h.ids⟩
    next => exact h.logged parseError
  next => exact h.logged parseError

theorem openPolicy (h : ListablePolicies d) (id : String) :
    ListablePolicies (openPolicy id d) := by
  unfold FortiOs.openPolicy
  split
  next => exact h.logged parseError
  next asked _ =>
    split
    next => exact h.logged parseError
    next n hn =>
      have hzero : n ≠ 0 := by
        split at hn
        next => exact nextId?_ne_zero hn
        next hasked => exact Option.some.inj hn ▸ by simpa using hasked
      dsimp only
      split
      next => exact h.of_same rfl
      next hany =>
        have hnew : n ∉ d.policies.map Policy.id := by
          intro hmem
          obtain ⟨p, hp, hpn⟩ := List.mem_map.mp hmem
          exact hany (List.any_eq_true.mpr ⟨p, hp, beq_iff_eq.mpr hpn⟩)
        refine ⟨List.forall_mem_append.mpr ⟨h.each, ?_⟩, nodup_ids_append h.ids hnew⟩
        exact List.forall_mem_singleton.mpr (.blank hzero)

theorem deletePolicy (h : ListablePolicies d) (id : String) :
    ListablePolicies (deletePolicy id d) := by
  unfold FortiOs.deletePolicy
  dsimp only
  split
  next => exact h.logged notFound
  next =>
    exact ⟨fun p hp => h.each p (List.mem_filter.mp hp).1,
      h.ids.sublist (List.filter_sublist.map Policy.id)⟩

theorem setAction (h : ListablePolicies d) (action : String) :
    ListablePolicies (setAction action d) := by
  have hset : ∀ a : PolicyAction,
      ListablePolicies (FortiOs.editPolicy (fun p => { p with action := a }) d) :=
    fun a => h.editPolicy (fun _ => rfl) fun _ hp => { hp with }
  unfold FortiOs.setAction
  split
  next => exact hset .allow
  next => exact hset .deny
  next => exact h.logged parseError

theorem setService (h : ListablePolicies d) (services : String) :
    ListablePolicies (setService services d) := by
  unfold FortiOs.setService
  dsimp only
  split
  next protocol port hselector =>
    exact h.editPolicy (fun _ => rfl) fun _ hp =>
      { hp with selector := selector_mem_of_some hselector }
  next => exact h.logged notFound

/-- A setting of another kind of object. -/
theorem setting (h : ListablePolicies d) {k : ObjectKind} (hk : k ≠ .policy)
    {f : Device → Device} (hf : Setting k f) : ListablePolicies (f d) := by
  cases hf with
  | rejected _ => exact h.logged _
  | policy _ => exact absurd rfl hk
  | interface f =>
    unfold editInterface
    split
    next => exact h.of_same rfl
    next => exact h.logged parseError
  | route f =>
    unfold editRoute
    split
    next =>
      split
      next => exact h.of_same rfl
      next => exact h.logged parseError
    next => exact h.logged parseError

theorem openRoute (h : ListablePolicies d) (position : String) :
    ListablePolicies (openRoute position d) := by
  unfold FortiOs.openRoute
  split
  next => exact h.logged parseError
  next => split <;> exact h.of_same rfl

theorem deleteInterface (h : ListablePolicies d) (name : String) :
    ListablePolicies (deleteInterface name d) := by
  unfold FortiOs.deleteInterface
  split
  next => exact h.of_same rfl
  next => exact h.logged notFound

theorem deleteRoute (h : ListablePolicies d) (position : String) :
    ListablePolicies (deleteRoute position d) := by
  unfold FortiOs.deleteRoute
  split
  next =>
    split
    next => exact h.of_same rfl
    next => exact h.logged notFound
  next => exact h.logged notFound

theorem next (h : ListablePolicies d) (devices : Inventory) :
    ListablePolicies (Command.next.run devices d) := by
  rw [Command.run]
  split
  next => exact h.of_same rfl
  next => exact h

end ListablePolicies

/-! ## Commands and lines -/

variable {d : Device}

/-- No command with texts from a line makes a policy that cannot be listed. -/
theorem listablePolicies_run {c : Command} (h : ListablePolicies d) (hc : c.PolicyFromLine)
    (devices : Inventory) : ListablePolicies (c.run devices d) := by
  cases c with
  | accept => exact h
  | openSection | leave | openInterface => exact h.of_same rfl
  | next => exact h.next devices
  | openPolicy id => exact h.openPolicy id
  | openRoute position => exact h.openRoute position
  | deleteInterface name => exact h.deleteInterface _
  | deletePolicy id => exact h.deletePolicy id
  | deleteRoute position => exact h.deleteRoute position
  | setName name =>
    exact h.editPolicy (fun _ => rfl) fun _ hp =>
      { hp with name := ⟨Text.bare_unquote name, Text.spaced_unquote hc⟩ }
  | setFromZone zone =>
    exact h.editPolicy (fun _ => rfl) fun _ hp => { hp with fromZone := isName_unquote hc }
  | setToZone zone =>
    exact h.editPolicy (fun _ => rfl) fun _ hp => { hp with toZone := isName_unquote hc }
  | setSource address =>
    exact h.editPolicy (fun _ => rfl) fun _ hp =>
      hp.withSource (isName_readAddress hc) (readAddress_ne_all address)
  | setDestinationAddress address =>
    exact h.editPolicy (fun _ => rfl) fun _ hp =>
      hp.withDestination (isName_readAddress hc) (readAddress_ne_all address)
  | setAction action => exact h.setAction action
  | setService services => exact h.setService services
  | setAddress | setCidr | clearAddress | setStatus | setAlias | setZone =>
    exact h.setting (k := .interface) (by decide) (setting_run rfl devices)
  | setDestination | setDestinationPrefix | setGateway | setDevice =>
    exact h.setting (k := .route) (by decide) (setting_run rfl devices)
  | _ => exact h.of_forget (forget_run_of_inspects rfl devices d)

/-- Whatever is entered, all policies can be listed. -/
theorem listablePolicies_lines (h : ListablePolicies d) (hfamily : d.family = .fortinet)
    (lines : List (Inventory × String)) :
    ListablePolicies (d.run (lines.map fun l => (l.1, .line l.2))) := by
  refine Dialect.kept_lines (P := ListablePolicies) ?_ hfamily h lines
  intro d hfamily h devices line
  obtain ⟨help, hinterpret⟩ := speaks hfamily
  rw [hinterpret]
  refine Dialect.kept_interpret (P := ListablePolicies) (fun text h => h.logged text) ?_ h help
  intro d m h hdone
  obtain ⟨c, rfl, hc⟩ := policyFromLine_of_done (areWords_words line) hdone
  exact listablePolicies_run h hc devices

end TrainingLab.FortiOs
