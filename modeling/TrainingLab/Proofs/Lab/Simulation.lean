import TrainingLab.Lab.Simulation
import TrainingLab.Proofs.Lab.Isolation

/-
  The path of a packet. In a lab that a definition makes, the topology names devices of the lab,
  none of them twice (`Routed`), and no operation changes that. So the packet finds every device on
  its way, and what remains to say is where it stops: at the first device that blocks it.

  Proved:
  * `outcome_hopStep`: a device drops the packet exactly when it blocks the protocol.
  * `walk_ok`, `walk_resolved`: the steps over resolvable devices.
  * `routed_ofDefinition`, `routed_run`: the topology stays resolvable.
  * `packet_walk`: the steps of every simulation in every lab that runs.
-/

namespace TrainingLab

/-! ## Blocking -/

/-- The selectors of a policy take in the flow; one that is not set takes in everything. -/
def Policy.Selects (p : Policy) (transport : Transport) (port : Option UInt16) : Prop :=
  (∀ t, p.protocol = some t → t = transport) ∧ ∀ n, p.port = some n → port = some n

theorem Policy.covers_iff {p : Policy} {transport : Transport} {port : Option UInt16} :
    p.covers transport port = true ↔ p.Selects transport port := by
  unfold covers Selects
  rw [Bool.and_eq_true]
  refine and_congr ?_ ?_
  · cases p.protocol <;> simp
  · cases p.port with
    | none => simp
    | some n =>
      cases port with
      | none => simp
      | some m => simpa using eq_comm

instance (p : Policy) (transport : Transport) (port : Option UInt16) :
    Decidable (p.Selects transport port) :=
  decidable_of_iff _ Policy.covers_iff

/-- A firewall without any policy that allows something blocks every packet; a cloud resource with
    policies blocks the packets that none of them allows. -/
def Device.Blocks (d : Device) (protocol : Protocol) : Prop :=
  (d.kind = .firewall ∧ ∀ p ∈ d.policies, p.action ≠ .allow) ∨
  (d.kind = .cloud ∧ d.policies ≠ [] ∧
    ∀ p ∈ d.policies, p.action = .allow → ¬ p.Selects protocol.transport protocol.port)

instance (d : Device) (protocol : Protocol) : Decidable (d.Blocks protocol) := by
  unfold Device.Blocks
  infer_instance

namespace SecurityGroup

theorem mem_insertRule {p q : Policy} {rules : List Policy} :
    q ∈ insertRule p rules ↔ q = p ∨ q ∈ rules := by
  induction rules with
  | nil => simp [insertRule]
  | cons r rest ih =>
    rw [insertRule]
    split
    · exact List.mem_cons
    · rw [List.mem_cons, ih, List.mem_cons]
      exact or_left_comm

/-- The order of evaluation leaves no rule out. -/
theorem mem_order {q : Policy} {policies : List Policy} : q ∈ order policies ↔ q ∈ policies := by
  induction policies with
  | nil => rfl
  | cons p rest ih =>
    have hstep : order (p :: rest) = insertRule p (order rest) := rfl
    rw [hstep, mem_insertRule, ih, List.mem_cons]

end SecurityGroup

namespace Device

theorem deciding?_eq_none_iff {policies : List Policy} {action : PolicyAction}
    {protocol : Protocol} :
    deciding? (SecurityGroup.order policies) action protocol = none ↔
      ∀ p ∈ policies, p.action = action → ¬ p.Selects protocol.transport protocol.port := by
  rw [deciding?, List.find?_eq_none]
  simp only [SecurityGroup.mem_order, Bool.and_eq_true, beq_iff_eq, Policy.covers_iff, not_and]

theorem outcome_firewallStep (d : Device) :
    d.firewallStep.outcome =
      if ∀ p ∈ d.policies, p.action ≠ .allow then .drop else .success := by
  unfold firewallStep
  cases hp : d.policies.find? fun p => p.action == .allow with
  | none =>
    have hnone : ∀ p ∈ d.policies, p.action ≠ .allow := by
      simpa [List.find?_eq_none] using hp
    rw [if_pos hnone]
    rfl
  | some p =>
    have hallow : p.action = .allow := by simpa using List.find?_some hp
    rw [if_neg fun hnone => hnone p (List.mem_of_find?_eq_some hp) hallow]
    rfl

theorem outcome_securityGroupStep (d : Device) (protocol : Protocol) :
    (d.securityGroupStep protocol).outcome =
      if ∀ p ∈ d.policies, p.action = .allow → ¬ p.Selects protocol.transport protocol.port
      then .drop else .success := by
  simp only [← deciding?_eq_none_iff, securityGroupStep]
  cases deciding? (SecurityGroup.order d.policies) .allow protocol with
  | some p => rfl
  | none =>
    cases deciding? (SecurityGroup.order d.policies) .deny protocol <;> rfl

/-- A device drops the packet exactly when it blocks the protocol, and else passes it on. -/
theorem outcome_hopStep (d : Device) (protocol : Protocol) :
    (d.hopStep protocol).outcome = if d.Blocks protocol then .drop else .success := by
  have hforward : d.forwardStep.outcome = .success := rfl
  unfold hopStep
  cases hkind : d.kind with
  | firewall =>
    have hblocks : d.Blocks protocol ↔ ∀ p ∈ d.policies, p.action ≠ .allow := by
      simp [Blocks, hkind]
    rw [d.outcome_firewallStep]
    simp only [hblocks]
  | cloud =>
    by_cases hnone : d.policies = []
    · have hpasses : ¬ d.Blocks protocol := by simp [Blocks, hkind, hnone]
      simp [hnone, hforward, hpasses]
    · have hblocks : d.Blocks protocol ↔ ∀ p ∈ d.policies, p.action = .allow →
          ¬ p.Selects protocol.transport protocol.port := by
        simp [Blocks, hkind, hnone]
      have hsome : d.policies.isEmpty = false := by simpa using hnone
      simp only [hsome, Bool.false_eq_true, if_false]
      rw [d.outcome_securityGroupStep protocol]
      simp only [hblocks]
  | router | switch | accessPoint =>
    have hpasses : ¬ d.Blocks protocol := by simp [Blocks, hkind]
    simp [hforward, hpasses]

theorem deviceId_hopStep (d : Device) (protocol : Protocol) :
    (d.hopStep protocol).deviceId = d.id := by
  unfold hopStep firewallStep securityGroupStep
  dsimp only
  repeat' split
  all_goals rfl

end Device

namespace Lab

/-- The device of the id blocks the protocol. -/
def Blocks (l : Lab) (protocol : Protocol) (id : DeviceId) : Prop :=
  ∃ d, l.devices.find? id = some d ∧ d.Blocks protocol

instance (l : Lab) (protocol : Protocol) (id : DeviceId) : Decidable (l.Blocks protocol id) :=
  match h : l.devices.find? id with
  | none => isFalse fun ⟨_, hd, _⟩ => by rw [h] at hd; cases hd
  | some d =>
    if hb : d.Blocks protocol then isTrue ⟨d, h, hb⟩
    else isFalse fun ⟨_, hd, hd'⟩ => by rw [h] at hd; cases hd; exact hb hd'

/-! ## The walk -/

/-- A step without its texts. -/
def mark (s : SimulationStep) : DeviceId × StepOutcome := (s.deviceId, s.outcome)

/-- The steps over the devices of a path: the packet passes those before the first one that blocks
    it, and that one drops it. -/
def marks (l : Lab) (protocol : Protocol) (ids : List DeviceId) : List (DeviceId × StepOutcome) :=
  (ids.takeWhile fun id => !decide (l.Blocks protocol id)).map (fun id => (id, .success)) ++
    (ids.find? fun id => decide (l.Blocks protocol id)).toList.map fun id => (id, .drop)

theorem marks_cons_of_blocks {l : Lab} {protocol : Protocol} {id : DeviceId}
    (h : l.Blocks protocol id) (ids : List DeviceId) :
    l.marks protocol (id :: ids) = [(id, .drop)] := by
  simp [marks, h]

theorem marks_cons_of_passes {l : Lab} {protocol : Protocol} {id : DeviceId}
    (h : ¬ l.Blocks protocol id) (ids : List DeviceId) :
    l.marks protocol (id :: ids) = (id, .success) :: l.marks protocol ids := by
  simp [marks, h]

/-- Either nothing on the path blocks the packet, or there is a first device that does. -/
theorem first_blocking (l : Lab) (protocol : Protocol) (ids : List DeviceId) :
    (∀ id ∈ ids, ¬ l.Blocks protocol id) ∨
      ∃ passed id rest, ids = passed ++ id :: rest ∧ (∀ i ∈ passed, ¬ l.Blocks protocol i) ∧
        l.Blocks protocol id := by
  cases hfirst : ids.find? fun id => decide (l.Blocks protocol id) with
  | none => exact Or.inl (by simpa [List.find?_eq_none] using hfirst)
  | some id =>
    obtain ⟨hblocks, passed, rest, rfl, hpassed⟩ := List.find?_eq_some_iff_append.mp hfirst
    exact Or.inr ⟨passed, id, rest, rfl, by simpa using hpassed, by simpa using hblocks⟩

theorem marks_of_passes {l : Lab} {protocol : Protocol} {ids : List DeviceId}
    (h : ∀ id ∈ ids, ¬ l.Blocks protocol id) :
    l.marks protocol ids = ids.map fun id => (id, .success) := by
  induction ids with
  | nil => rfl
  | cons id rest ih =>
    obtain ⟨hid, hrest⟩ := List.forall_mem_cons.mp h
    rw [marks_cons_of_passes hid, ih hrest, List.map_cons]

theorem marks_of_first {l : Lab} {protocol : Protocol} {passed : List DeviceId} {id : DeviceId}
    (h : ∀ i ∈ passed, ¬ l.Blocks protocol i) (hid : l.Blocks protocol id)
    (rest : List DeviceId) :
    l.marks protocol (passed ++ id :: rest) =
      passed.map (fun i => (i, .success)) ++ [(id, .drop)] := by
  induction passed with
  | nil => exact marks_cons_of_blocks hid rest
  | cons i passed ih =>
    obtain ⟨hi, hpassed⟩ := List.forall_mem_cons.mp h
    rw [List.cons_append, marks_cons_of_passes hi, ih hpassed, List.map_cons, List.cons_append]

/-- The devices that the packet visits are a first part of the path. -/
theorem visited_prefix (l : Lab) (protocol : Protocol) (ids : List DeviceId) :
    (l.marks protocol ids).map Prod.fst <+: ids := by
  rcases l.first_blocking protocol ids with hpass | ⟨passed, id, rest, rfl, hpassed, hid⟩
  · rw [marks_of_passes hpass]
    simp [Function.comp_def]
  · rw [marks_of_first hpassed hid]
    exact ⟨rest, by simp [Function.comp_def]⟩

/-- All steps succeed but the last one, which is a drop exactly if something blocks the packet. -/
theorem outcomes_marks (l : Lab) (protocol : Protocol) (ids : List DeviceId) :
    ∃ n, (l.marks protocol ids).map Prod.snd =
      List.replicate n .success ++ if ∃ id ∈ ids, l.Blocks protocol id then [.drop] else [] := by
  rcases l.first_blocking protocol ids with hpass | ⟨passed, id, rest, rfl, hpassed, hid⟩
  · have hno : ¬ ∃ id ∈ ids, l.Blocks protocol id := fun ⟨id, hmem, hid⟩ => hpass id hmem hid
    refine ⟨ids.length, ?_⟩
    rw [marks_of_passes hpass, if_neg hno, List.map_map, List.append_nil]
    exact List.map_const' ..
  · have hyes : ∃ i ∈ passed ++ id :: rest, l.Blocks protocol i := ⟨id, by simp, hid⟩
    refine ⟨passed.length, ?_⟩
    rw [marks_of_first hpassed hid, if_pos hyes, List.map_append, List.map_map]
    exact congrArg (· ++ [StepOutcome.drop]) (List.map_const' ..)

/-- At a device of the lab the walk stops if the device blocks the packet or is the destination. -/
theorem walk_cons {l : Lab} {id : DeviceId} {d : Device} (hd : l.devices.find? id = some d)
    (destination : Option DeviceId) (protocol : Protocol) (rest : List DeviceId) :
    l.walk destination protocol (id :: rest) =
      if d.Blocks protocol then .ok [d.hopStep protocol]
      else if destination = some id then
        .ok [d.arrivalStep protocol (d.hopStep protocol)]
      else (l.walk destination protocol rest).map fun steps => d.hopStep protocol :: steps := by
  simp only [walk, device?, hd, bind, Except.bind, d.outcome_hopStep]
  by_cases hb : d.Blocks protocol
  · simp only [if_pos hb]
    rfl
  · simp only [if_neg hb, reduceCtorEq, if_false]
    split
    next => rfl
    next => cases l.walk destination protocol rest <;> rfl

/-- Over devices of the lab the walk does not fail. -/
theorem walk_ok {l : Lab} (hk : l.devices.Keyed) (protocol : Protocol) {ids : List DeviceId}
    (h : ∀ id ∈ ids, l.devices.contains id = true) :
    ∃ steps, l.walk none protocol ids = .ok steps ∧ steps.map mark = l.marks protocol ids := by
  induction ids with
  | nil => exact ⟨[], rfl, rfl⟩
  | cons id rest ih =>
    obtain ⟨d, hd⟩ := Option.isSome_iff_exists.mp (h id List.mem_cons_self)
    have hmark : mark (d.hopStep protocol) =
        (id, if d.Blocks protocol then .drop else .success) := by
      rw [mark, d.deviceId_hopStep, d.outcome_hopStep, hk id d hd]
    rw [walk_cons hd]
    by_cases hb : d.Blocks protocol
    · refine ⟨[d.hopStep protocol], if_pos hb, ?_⟩
      rw [marks_cons_of_blocks ⟨d, hd, hb⟩, List.map_cons, hmark, if_pos hb]
      rfl
    · obtain ⟨steps, hsteps, hmarks⟩ := ih fun i hi => h i (List.mem_cons_of_mem id hi)
      refine ⟨d.hopStep protocol :: steps, by rw [if_neg hb, hsteps]; rfl, ?_⟩
      have hpass : ¬ l.Blocks protocol id := by
        rintro ⟨e, he, hblocks⟩
        rw [hd] at he
        cases he
        exact hb hblocks
      rw [marks_cons_of_passes hpass, List.map_cons, hmark, if_neg hb, hmarks]

/-! ## Routed labs -/

/-- The topology names devices of the lab, none of them twice. -/
structure Routed (l : Lab) : Prop where
  distinct : l.path.Nodup
  resolved : ∀ id ∈ l.path, l.devices.contains id = true

theorem routed_ofDefinition {definition : LabDefinition} {l : Lab}
    (h : ofDefinition definition = .ok l) : l.Routed := by
  obtain ⟨hids, hpath, rfl⟩ := ofDefinition_ok_iff.mp h
  rw [← resolves_ofValid hids] at hpath
  exact ⟨hpath.distinct, fun id hid => (hpath.known id hid).1⟩

/-- Another device in its place does not change where the topology leads. -/
theorem Routed.insert {l : Lab} (h : l.Routed) (id : DeviceId) (d : Device) :
    Routed { l with devices := l.devices.insert id d } := by
  refine ⟨h.distinct, fun i hi => ?_⟩
  rw [SortedMap.contains_insert, h.resolved i hi, ite_self]

theorem routed_step {l : Lab} (hk : l.devices.Keyed) (h : l.Routed) (o : Operation) :
    (l.step o).Routed := by
  cases hd : l.devices.find? o.device with
  | none =>
    rw [step_of_none hd]
    exact h
  | some d =>
    rw [step_of_some hk hd]
    exact h.insert o.device _

theorem routed_run {l : Lab} (hk : l.devices.Keyed) (h : l.Routed)
    (operations : List Operation) : (l.run operations).Routed := by
  induction operations generalizing l with
  | nil => exact h
  | cons o rest ih => exact ih (keyed_step hk o) (routed_step hk h o)

/-! ## Simulations -/

theorem simulate_of_none {l : Lab} {source : DeviceId} (h : l.devices.find? source = none)
    (protocol : Protocol) : l.simulate source protocol = .error (.deviceNotFound source) := by
  rw [simulate, pathFrom, device?, h]
  rfl

/-- Over devices of the lab no walk fails. -/
theorem walk_resolved {l : Lab} (destination : Option DeviceId) (protocol : Protocol)
    {ids : List DeviceId} (h : ∀ id ∈ ids, l.devices.contains id = true) :
    ∃ steps, l.walk destination protocol ids = .ok steps := by
  induction ids with
  | nil => exact ⟨[], rfl⟩
  | cons id rest ih =>
    obtain ⟨hid, hrest⟩ := List.forall_mem_cons.mp h
    obtain ⟨d, hd⟩ := Option.isSome_iff_exists.mp hid
    obtain ⟨steps, hsteps⟩ := ih hrest
    rw [walk_cons hd, hsteps]
    split
    next => exact ⟨_, rfl⟩
    next => split <;> exact ⟨_, rfl⟩

/-- In a routed lab a packet from a device of the lab finds its way, wherever it is sent. -/
theorem pathFrom_ok {l : Lab} (h : l.Routed) {source : DeviceId} {d : Device}
    (hd : l.devices.find? source = some d) (destination : Option DeviceId) (protocol : Protocol) :
    ∃ steps, l.pathFrom source destination protocol = .ok steps := by
  have hothers : ∀ id ∈ l.path.filter (fun id => id != source), l.devices.contains id = true :=
    fun id hid => h.resolved id (List.mem_filter.mp hid).1
  obtain ⟨steps, hsteps⟩ := walk_resolved destination protocol hothers
  simp only [pathFrom, device?, hd, hsteps, bind, Except.bind]
  exact ⟨_, rfl⟩

theorem simulateTo_eq (l : Lab) (source destination : DeviceId) (protocol : Protocol) :
    l.simulateTo source destination protocol =
      if destination ≠ source ∧ destination ∈ l.path then
        l.pathFrom source (some destination) protocol
      else .error (.deviceNotFound destination) := by
  unfold simulateTo
  by_cases hsource : destination = source
  · simp [hsource]
  · by_cases hpath : destination ∈ l.path <;> simp [hsource, hpath]

/-- In a routed lab a packet from a device of the lab gets to its end. -/
theorem simulate_of_some {l : Lab} (hk : l.devices.Keyed) (hr : l.Routed) {source : DeviceId}
    {d : Device} (h : l.devices.find? source = some d) (protocol : Protocol) :
    ∃ steps, l.simulate source protocol = .ok steps ∧
      steps.map mark =
        (source, .success) :: l.marks protocol (l.path.filter fun id => id != source) := by
  have hresolved : ∀ id ∈ l.path.filter fun id => id != source, l.devices.contains id = true :=
    fun id hid => hr.resolved id (List.mem_filter.mp hid).1
  obtain ⟨steps, hsteps, hmarks⟩ := walk_ok hk protocol hresolved
  refine ⟨d.sourceStep protocol :: steps, ?_, ?_⟩
  · simp only [simulate, pathFrom, device?, h, hsteps]
    rfl
  · have hsource : mark (d.sourceStep protocol) = (source, .success) := by
      rw [← hk source d h]
      rfl
    rw [List.map_cons, hsource, hmarks]

/-- **The path of a packet.** In a lab that a definition makes, and after any run, a simulation
    fails exactly for a source that is no device of the lab, by the error that says so. Otherwise
    its steps are the source, which succeeds, and the other devices of the topology in order, none
    of them twice, up to the first one that blocks the protocol, and with it. All steps succeed,
    but for a drop at the end exactly if there is such a device; none is an arrival. -/
theorem packet_walk {definition : LabDefinition} {made : Lab}
    (h : ofDefinition definition = .ok made) (operations : List Operation) (source : DeviceId)
    (protocol : Protocol) :
    let l := made.run operations
    let others := l.path.filter fun id => id != source
    (∀ e, l.simulate source protocol = .error e ↔
      l.devices.contains source = false ∧ e = .deviceNotFound source) ∧
    (l.devices.contains source = true → ∃ steps, l.simulate source protocol = .ok steps ∧
      steps.map mark = (source, .success) :: l.marks protocol others ∧
      (steps.map SimulationStep.deviceId).Nodup ∧
      steps.map SimulationStep.deviceId <+: source :: others ∧
      ∃ n, steps.map SimulationStep.outcome =
        List.replicate (n + 1) .success ++
          if ∃ id ∈ others, l.Blocks protocol id then [.drop] else []) := by
  intro l others
  have hk : l.devices.Keyed := keyed_run (keyed_ofDefinition h) operations
  have hr : l.Routed := routed_run (keyed_ofDefinition h) (routed_ofDefinition h) operations
  cases hd : l.devices.find? source with
  | none =>
    have hno : l.devices.contains source = false := SortedMap.contains_eq_false_iff.mpr hd
    refine ⟨fun e => ?_, fun hyes => ?_⟩
    · rw [simulate_of_none hd, Except.error.injEq]
      exact ⟨fun he => ⟨hno, he.symm⟩, fun he => he.2.symm⟩
    · rw [hno] at hyes
      cases hyes
  | some d =>
    have hyes : l.devices.contains source = true := SortedMap.contains_of_find? hd
    obtain ⟨steps, hsteps, hmarks⟩ := simulate_of_some hk hr hd protocol
    have hids : steps.map SimulationStep.deviceId =
        source :: (l.marks protocol others).map Prod.fst := by
      have := congrArg (List.map Prod.fst) hmarks
      simpa [Function.comp_def, mark] using this
    have hprefix : steps.map SimulationStep.deviceId <+: source :: others := by
      rw [hids]
      exact List.cons_prefix_cons.mpr ⟨rfl, l.visited_prefix protocol others⟩
    have hdistinct : (source :: others).Nodup :=
      List.nodup_cons.mpr ⟨by simp [others], hr.distinct.filter _⟩
    refine ⟨fun e => ?_, fun _ => ⟨steps, hsteps, hmarks, hprefix.sublist.nodup hdistinct,
      hprefix, ?_⟩⟩
    · rw [hsteps, hyes]
      simp
    · obtain ⟨n, hn⟩ := l.outcomes_marks protocol others
      have houtcomes : steps.map SimulationStep.outcome =
          .success :: (l.marks protocol others).map Prod.snd := by
        have := congrArg (List.map Prod.snd) hmarks
        simpa [Function.comp_def, mark] using this
      exact ⟨n, by rw [houtcomes, hn, List.replicate_succ, List.cons_append]⟩

/-- Once its only rule is deleted, the firewall `fw` drops what `pc2` sends over `pc1`, and `pc3`
    behind the firewall is not visited. -/
theorem packet_walk_deleted_rule :
    let node (id : DeviceId) : TopologyNode :=
      { deviceId := id, label := id, icon := .router, x := .integer 0, y := .integer 0 }
    let pc (id : DeviceId) : Device := { id, name := id, kind := .router, vendor := .cisco }
    let web : Policy :=
      { id := 1, name := "web", fromZone := "any", toZone := "any", action := .allow }
    let fw : Device :=
      { id := "fw", name := "fw", kind := .firewall, vendor := .paloAlto, policies := [web] }
    let definition : LabDefinition :=
      { id := "lab", title := "", description := "", difficulty := .beginner, vendor := ""
        devices := [fw, pc "pc1", pc "pc2", pc "pc3"]
        topology := [node "pc1", node "fw", node "pc2", node "pc3"] }
    let operations : List Operation :=
      [⟨"fw", .line "configure"⟩, ⟨"fw", .line "delete rulebase security rules web"⟩]
    ∃ made, ofDefinition definition = .ok made ∧
      (made.run operations).simulate "pc4" .http = .error (.deviceNotFound "pc4") ∧
      ∃ steps, (made.run operations).simulate "pc2" .http = .ok steps ∧
        steps.map mark = [("pc2", .success), ("pc1", .success), ("fw", .drop)] := by
  intro node pc web fw definition operations
  have hdecided : (ofDefinition definition).toOption.any (fun made =>
      decide ((made.run operations).devices.contains "pc4" = false ∧
        (made.run operations).devices.contains "pc2" = true ∧
        (made.run operations).marks .http
            ((made.run operations).path.filter fun id => id != "pc2") =
          [("pc1", .success), ("fw", .drop)])) = true := by
    decide +kernel
  obtain ⟨made, hmade, hmet⟩ := exists_of_any_toOption hdecided
  obtain ⟨hunknown, hknown, hmarks⟩ := of_decide_eq_true hmet
  obtain ⟨steps, hsteps, hwalked, _⟩ := (packet_walk hmade operations "pc2" .http).2 hknown
  refine ⟨made, hmade, ?_, steps, hsteps, ?_⟩
  · exact ((packet_walk hmade operations "pc4" .http).1 _).mpr ⟨hunknown, rfl⟩
  · rw [hwalked, hmarks]

end Lab

end TrainingLab
