import TrainingLab.Proofs.Lab.Simulation

/-
  The path of a packet that has a destination. It is the path over the whole topology, cut at the
  destination (`Cut`): both go the same steps until one of them drops the packet, and then they are
  the same, or until the destination takes it, and then the short path ends where the other goes on.

  Proved:
  * `walk_cut`: in a lab that resolves its topology, the two walks are so related.
  * `Cut.split`: where the short path ends, and how its last step differs.
  * `destination_walk`: which simulations fail, and how the others compare with the full path.
-/

namespace TrainingLab.Lab

/-! ## Two walks over the same devices -/

/-- The second list of steps is the first one cut at the destination: they share the steps up to a
    drop, or up to the destination, which processes the packet in place of passing it on. -/
inductive Cut (destination : DeviceId) : List SimulationStep → List SimulationStep → Prop
  | dropped {step : SimulationStep} (houtcome : step.outcome = .drop) :
      Cut destination [step] [step]
  | arrived {step : SimulationStep} (hid : step.deviceId = destination)
      (houtcome : step.outcome = .success) (text : String) (rest : List SimulationStep) :
      Cut destination (step :: rest) [{ step with outcome := .process, description := text }]
  | passed {step : SimulationStep} (hid : step.deviceId ≠ destination)
      {full short : List SimulationStep} (hrest : Cut destination full short) :
      Cut destination (step :: full) (step :: short)

variable {l : Lab} {destination : DeviceId} {protocol : Protocol}

/-- Over devices of the lab, the destination among them, the walk to it is the other one cut. -/
theorem walk_cut (hk : l.devices.Keyed) (protocol : Protocol) {ids : List DeviceId}
    (hids : ∀ id ∈ ids, l.devices.contains id = true) (hdestination : destination ∈ ids) :
    ∃ full short, l.walk none protocol ids = .ok full ∧
      l.walk (some destination) protocol ids = .ok short ∧ Cut destination full short := by
  induction ids with
  | nil => cases hdestination
  | cons id rest ih =>
    obtain ⟨hid, hrest⟩ := List.forall_mem_cons.mp hids
    obtain ⟨d, hd⟩ := Option.isSome_iff_exists.mp hid
    have hhop : (d.hopStep protocol).deviceId = id := by
      rw [d.deviceId_hopStep, hk id d hd]
    rw [walk_cons hd, walk_cons hd]
    by_cases hblocks : d.Blocks protocol
    · refine ⟨_, _, if_pos hblocks, if_pos hblocks, .dropped ?_⟩
      rw [d.outcome_hopStep, if_pos hblocks]
    have hpasses : (d.hopStep protocol).outcome = .success := by
      rw [d.outcome_hopStep, if_neg hblocks]
    rw [if_neg hblocks, if_neg hblocks, if_neg (by simp)]
    by_cases hhere : destination = id
    · obtain ⟨full, hfull⟩ := walk_resolved none protocol hrest
      rw [hfull, if_pos (congrArg some hhere)]
      exact ⟨_, _, rfl, rfl, .arrived (hhop.trans hhere.symm) hpasses _ full⟩
    · obtain ⟨full, short, hfull, hshort, hcut⟩ :=
        ih hrest ((List.mem_cons.mp hdestination).resolve_left hhere)
      rw [hfull, hshort, if_neg (fun heq => hhere (Option.some.inj heq))]
      exact ⟨_, _, rfl, rfl, .passed (fun heq => hhere (heq.symm.trans hhop)) hcut⟩

/-- A cut path ends in a drop, and is the whole path; or the destination has taken the packet, and
    up to there the paths are the same. No step before the last one is at the destination. -/
theorem Cut.split {full short : List SimulationStep} (h : Cut destination full short) :
    ∃ before step rest last, full = before ++ step :: rest ∧ short = before ++ [last] ∧
      (∀ s ∈ before, s.deviceId ≠ destination) ∧
      last.deviceId = step.deviceId ∧ last.detail = step.detail ∧
      (step.outcome = .drop ∧ last = step ∧ rest = [] ∨
        step.deviceId = destination ∧ step.outcome = .success ∧ last.outcome = .process) := by
  induction h with
  | @dropped step houtcome =>
    exact ⟨[], step, [], step, rfl, rfl, List.forall_mem_nil _, rfl, rfl,
      Or.inl ⟨houtcome, rfl, rfl⟩⟩
  | @arrived step hid houtcome text rest =>
    exact ⟨[], step, rest, _, rfl, rfl, List.forall_mem_nil _, rfl, rfl,
      Or.inr ⟨hid, houtcome, rfl⟩⟩
  | @passed first hid full short _ ih =>
    obtain ⟨before, step, rest, last, rfl, rfl, hbefore, hlast⟩ := ih
    exact ⟨first :: before, step, rest, last, rfl, rfl, List.forall_mem_cons.mpr ⟨hid, hbefore⟩,
      hlast⟩

/-! ## Simulations -/

theorem simulateTo_of_none {source : DeviceId} (hother : destination ≠ source)
    (hpath : destination ∈ l.path) (h : l.devices.find? source = none) :
    l.simulateTo source destination protocol = .error (.deviceNotFound source) := by
  rw [simulateTo_eq, if_pos ⟨hother, hpath⟩, pathFrom, device?, h]
  rfl

/-- From a device of the lab, the simulation to a destination is the full one cut there. -/
theorem simulateTo_cut (hk : l.devices.Keyed) (hr : l.Routed) (protocol : Protocol)
    {source : DeviceId} {d : Device} (h : l.devices.find? source = some d)
    (hother : destination ≠ source) (hpath : destination ∈ l.path) :
    ∃ full short, l.simulate source protocol = .ok (d.sourceStep protocol :: full) ∧
      l.simulateTo source destination protocol = .ok (d.sourceStep protocol :: short) ∧
      Cut destination full short := by
  have hresolved : ∀ id ∈ l.path.filter fun id => id != source, l.devices.contains id = true :=
    fun id hid => hr.resolved id (List.mem_filter.mp hid).1
  have hmem : destination ∈ l.path.filter fun id => id != source :=
    List.mem_filter.mpr ⟨hpath, by simpa using hother⟩
  obtain ⟨full, short, hfull, hshort, hcut⟩ := walk_cut hk protocol hresolved hmem
  refine ⟨full, short, ?_, ?_, hcut⟩
  · simp only [simulate, pathFrom, device?, h, hfull]
    rfl
  · simp only [simulateTo_eq, if_pos (And.intro hother hpath), pathFrom, device?, h, hshort]
    rfl

/-- What the full path says of the ids is said of the devices before the cut. -/
theorem visited_before (hk : l.devices.Keyed) (hr : l.Routed) {source : DeviceId} {d : Device}
    (h : l.devices.find? source = some d) {before rest : List SimulationStep}
    {step : SimulationStep}
    (hfull : l.simulate source protocol = .ok (d.sourceStep protocol :: (before ++ step :: rest))) :
    ∃ after, (l.path.filter fun id => id != source) =
      before.map SimulationStep.deviceId ++ step.deviceId :: after := by
  obtain ⟨steps, hsteps, hmarks⟩ := simulate_of_some hk hr h protocol
  obtain rfl := Except.ok.inj (hfull.symm.trans hsteps)
  rw [List.map_cons, List.cons.injEq] at hmarks
  obtain ⟨after, hafter⟩ := l.visited_prefix protocol (l.path.filter fun id => id != source)
  rw [← hmarks.2] at hafter
  exact ⟨rest.map SimulationStep.deviceId ++ after,
    by simpa [Function.comp_def, mark] using hafter.symm⟩

/-- **A simulation to a destination is the full one, cut.** In a lab that a definition makes, and
    after any run, a simulation fails for a destination that is the source or not in the topology,
    by the error that names the destination, and else for a source that is no device of the lab, by
    the one that names the source. In all other cases both simulations have steps. Those to the
    destination are no more than those over the whole topology, and are the same position by
    position, but for the last one: it is at the same device and has the same detail, and instead of
    a success it may be an arrival. It is one exactly if it is at the destination and the full path
    does not drop the packet there; else the two paths are equal, and end in a drop at the
    destination or at a device before it. -/
theorem destination_walk {definition : LabDefinition} {made : Lab}
    (h : ofDefinition definition = .ok made) (operations : List Operation)
    (source destination : DeviceId) (protocol : Protocol) :
    let l := made.run operations
    let others := l.path.filter fun id => id != source
    (destination = source ∨ destination ∉ l.path →
      l.simulateTo source destination protocol = .error (.deviceNotFound destination)) ∧
    (destination ≠ source → destination ∈ l.path → l.devices.contains source = false →
      l.simulateTo source destination protocol = .error (.deviceNotFound source)) ∧
    (destination ≠ source → destination ∈ l.path → l.devices.contains source = true →
      ∃ full short, l.simulate source protocol = .ok full ∧
        l.simulateTo source destination protocol = .ok short ∧ short.length ≤ full.length ∧
        ∃ before step rest last, full = before ++ step :: rest ∧ short = before ++ [last] ∧
          last.deviceId = step.deviceId ∧ last.detail = step.detail ∧
          (last = step ∨ step.outcome = .success ∧ last.outcome = .process) ∧
          (last.outcome = .process ↔ last.deviceId = destination ∧ step.outcome ≠ .drop) ∧
          (last.outcome ≠ .process → short = full ∧ last.outcome = .drop ∧
            ∃ passed after, others = passed ++ last.deviceId :: after ∧
              destination ∈ last.deviceId :: after)) := by
  intro l others
  have hk : l.devices.Keyed := keyed_run (keyed_ofDefinition h) operations
  have hr : l.Routed := routed_run (keyed_ofDefinition h) (routed_ofDefinition h) operations
  refine ⟨fun hno => ?_, fun hother hpath hno => ?_, fun hother hpath hyes => ?_⟩
  · rw [simulateTo_eq]
    exact if_neg fun ⟨hother, hpath⟩ => hno.elim hother fun hno => hno hpath
  · exact simulateTo_of_none hother hpath (SortedMap.contains_eq_false_iff.mp hno)
  · obtain ⟨d, hd⟩ := Option.isSome_iff_exists.mp hyes
    obtain ⟨full, short, hfull, hshort, hcut⟩ :=
      simulateTo_cut hk hr protocol hd hother hpath
    obtain ⟨before, step, rest, last, rfl, rfl, hbefore, hid, hdetail, hlast⟩ := hcut.split
    refine ⟨_, _, hfull, hshort, by simp, d.sourceStep protocol :: before, step, rest, last, rfl,
      rfl, hid, hdetail, ?_⟩
    rcases hlast with ⟨hdrop, rfl, rfl⟩ | ⟨hat, hsuccess, harrival⟩
    · refine ⟨Or.inl rfl, by simp [hdrop], fun _ => ⟨rfl, hdrop, ?_⟩⟩
      obtain ⟨after, hafter⟩ := visited_before hk hr hd hfull
      refine ⟨_, after, hafter, ?_⟩
      have hmem : destination ∈ others := List.mem_filter.mpr ⟨hpath, by simpa using hother⟩
      rw [show others = _ from hafter, List.mem_append] at hmem
      refine hmem.resolve_left fun hpassed => ?_
      obtain ⟨s, hs, heq⟩ := List.mem_map.mp hpassed
      exact hbefore s hs heq
    · refine ⟨Or.inr ⟨hsuccess, harrival⟩, ?_, fun hno => absurd harrival hno⟩
      simp [harrival, hid, hat, hsuccess]

/-- The firewall `fw` stands before the source `pc2` in the topology, but behind `pc1` on the way
    from there: it takes what is sent to it, where the full path goes on to `pc3`. -/
theorem destination_walk_firewall :
    let node (id : DeviceId) : TopologyNode :=
      { deviceId := id, label := id, icon := .router, x := .integer 0, y := .integer 0 }
    let pc (id : DeviceId) : Device := { id, name := id, kind := .router, vendor := .cisco }
    let web : Policy :=
      { id := 1, name := "web", fromZone := "any", toZone := "any", action := .allow }
    let fw : Device :=
      { id := "fw", name := "fw", kind := .firewall, vendor := .paloAlto, policies := [web] }
    let definition : LabDefinition :=
      { id := "lab", title := "", description := "", difficulty := .beginner, vendor := ""
        devices := [fw, pc "pc1", pc "pc2", pc "pc3"]
        topology := [node "pc1", node "fw", node "pc2", node "pc3"] }
    ∃ made, ofDefinition definition = .ok made ∧
      made.simulateTo "pc2" "pc2" .http = .error (.deviceNotFound "pc2") ∧
      made.simulateTo "pc4" "fw" .http = .error (.deviceNotFound "pc4") ∧
      ∃ full short, made.simulate "pc2" .http = .ok full ∧
        made.simulateTo "pc2" "fw" .http = .ok short ∧ short.length ≤ full.length ∧
        full.map mark =
          [("pc2", .success), ("pc1", .success), ("fw", .success), ("pc3", .success)] ∧
        short.map mark = [("pc2", .success), ("pc1", .success), ("fw", .process)] := by
  intro node pc web fw definition
  have hdecided : (ofDefinition definition).toOption.any (fun made =>
      decide ("fw" ∈ made.path ∧ made.devices.contains "pc4" = false ∧
        made.devices.contains "pc2" = true ∧
        (made.simulate "pc2" .http).toOption.map (List.map mark) =
          some [("pc2", .success), ("pc1", .success), ("fw", .success), ("pc3", .success)] ∧
        (made.simulateTo "pc2" "fw" .http).toOption.map (List.map mark) =
          some [("pc2", .success), ("pc1", .success), ("fw", .process)])) = true := by
    decide
  obtain ⟨made, hmade, hmet⟩ := exists_of_any_toOption hdecided
  obtain ⟨hpath, hunknown, hknown, hmarks, hcut⟩ := of_decide_eq_true hmet
  have hwalk := fun source destination => destination_walk hmade [] source destination .http
  obtain ⟨full, short, hfull, hshort, hlength, _⟩ :=
    (hwalk "pc2" "fw").2.2 (by decide) hpath hknown
  have hfull' : made.simulate "pc2" .http = .ok full := hfull
  have hshort' : made.simulateTo "pc2" "fw" .http = .ok short := hshort
  rw [hfull'] at hmarks
  rw [hshort'] at hcut
  exact ⟨made, hmade, (hwalk "pc2" "pc2").1 (Or.inl rfl),
    (hwalk "pc4" "fw").2.1 (by decide) hpath hunknown, full, short, hfull, hshort, hlength,
    Option.some.inj hmarks, Option.some.inj hcut⟩

end TrainingLab.Lab
