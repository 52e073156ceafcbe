import TrainingLab.Proofs.Dialect.Junos.Commit

/-
  What `show | compare` says next to what a commit would do. Whether anything is pending is the
  question whether a commit would change what is live. The listing of the differences goes over the
  candidate on its own, and is stricter in one place and laxer in another: it names a hostname and a
  removal whatever is live, and it compares routes as sets.

  Proved:
  * `hasPendingChanges_eq_false_iff_view`: nothing is pending exactly when the staged view is what
    is live.
  * `pendingDiff_eq_nil_iff`: when the listing is empty.
  * `compare_agrees_iff`: the listing and the pending changes agree, on a device that lines and
    edits have led to, except for staged changes that change nothing and for routes in another
    order.
  * `commit_reports_changes`: what a commit reports is whether it changes what is live, and a second
    one has nothing left to do.
-/

namespace TrainingLab

/-- Two copies differ if they do so in one of their parts. -/
theorem WorkingCopy.ne_iff {v w : WorkingCopy} :
    v ≠ w ↔ v.interfaces ≠ w.interfaces ∨ v.routes ≠ w.routes ∨ v.hostname ≠ w.hostname := by
  cases v
  cases w
  simp only [Ne, WorkingCopy.mk.injEq, Classical.not_and_iff_not_or_not]

namespace Device

/-! ## Pending changes -/

/-- Every staged record repeats the live one. -/
def RecordsRepeatLive (d : Device) : Prop :=
  ∀ name i, d.staging.interfaces.find? name = some i → d.interfaces.find? name = some i

/-- Nothing is pending exactly when nothing that is staged differs from what is live. -/
theorem hasPendingChanges_eq_false_iff (d : Device) :
    d.hasPendingChanges = false ↔
      d.RecordsRepeatLive ∧
      (∀ name, d.staging.removed.contains name = true → d.interfaces.contains name = false) ∧
      (∀ routes, d.staging.routes = some routes → routes = d.routes) ∧
      (∀ name, d.staging.hostname = some name → name = d.name) := by
  unfold hasPendingChanges RecordsRepeatLive staging
  cases d.candidate with
  | none => simp [SortedMap.contains]
  | some c =>
    simp only [Bool.or_eq_false_iff, List.any_eq_false, Option.getD_some, and_assoc]
    refine and_congr ?_ (and_congr ?_ (and_congr ?_ ?_))
    · constructor
      · intro h name i hi
        simpa using h (name, i) (SortedMap.mem_entries_iff.mpr hi)
      · rintro h ⟨name, i⟩ hi
        simpa using h name i (SortedMap.mem_entries_iff.mp hi)
    · exact forall_congr' fun name => by rw [SortedMap.mem_keys_iff, Bool.not_eq_true]
    · cases c.routes <;> simp
    · cases c.hostname <;> simp

/-- Nothing is pending exactly when the staged view is what is live. -/
theorem hasPendingChanges_eq_false_iff_view {d : Device} (h : d.CandidateDisjoint) :
    d.hasPendingChanges = false ↔ d.stagedView = d.liveView := by
  refine ⟨stagedView_of_not_pending, fun hview => ?_⟩
  have hinterfaces : d.stagedInterfaces = d.interfaces := congrArg WorkingCopy.interfaces hview
  have hroutes : d.stagedRoutes = d.routes := congrArg WorkingCopy.routes hview
  have hname : d.stagedHostname = d.name := congrArg WorkingCopy.hostname hview
  have hfind := fun name => (find?_stagedInterfaces d name).symm.trans
    (congrArg (SortedMap.find? · name) hinterfaces)
  refine (hasPendingChanges_eq_false_iff d).mpr ⟨fun name i hi => ?_, fun name hr => ?_,
    fun routes hr => ?_, fun name hn => ?_⟩
  · rw [← hfind name, hi, Option.some_or]
  · rw [SortedMap.contains_eq_false_iff, ← hfind name, if_pos hr, Option.or_none]
    exact disjoint_staging h name hr
  · have hstaged : d.stagedRoutes = d.staging.routes.getD d.routes :=
      congrArg WorkingCopy.routes (stagedView_eq_overlay d)
    rw [← hroutes, hstaged, hr, Option.getD_some]
  · have hstaged : d.stagedHostname = d.staging.hostname.getD d.name :=
      congrArg WorkingCopy.hostname (stagedView_eq_overlay d)
    rw [← hname, hstaged, hn, Option.getD_some]

/-! ## The listing of the differences -/

/-- The lists hold the same routes, maybe in another order or another number of times. -/
def SameRoutes (routes others : List Route) : Prop := ∀ r, r ∈ routes ↔ r ∈ others

/-- The lines for an interface are missing exactly when its record repeats the live one. -/
theorem interfaceDiff_eq_nil_iff {live : Option Interface} {name : String} {i : Interface} :
    interfaceDiff live name i = [] ↔ live = some i := by
  unfold interfaceDiff
  split
  next h => exact ⟨fun _ => h, fun _ => rfl⟩
  next h => simp [h]

theorem routeDiff_eq_nil_iff {mark : String} {routes others : List Route} :
    routeDiff mark routes others = [] ↔ ∀ r ∈ routes, r ∈ others := by
  simp [routeDiff, List.flatMap_eq_nil_iff]

/-- The listing is empty exactly when no hostname and no removal is staged, the staged records
    repeat the live ones, and the staged routes are the live ones up to their order and number. -/
theorem pendingDiff_eq_nil_iff (d : Device) :
    d.pendingDiff = [] ↔
      d.staging.hostname = none ∧ d.staging.removed.keys = [] ∧ d.RecordsRepeatLive ∧
        ∀ routes, d.staging.routes = some routes → SameRoutes d.routes routes := by
  unfold pendingDiff RecordsRepeatLive staging
  cases d.candidate with
  | none => exact iff_of_true rfl ⟨rfl, rfl, nofun, nofun⟩
  | some c =>
    simp only [List.append_eq_nil_iff, Option.getD_some, and_assoc]
    refine and_congr ?_ (and_congr ?_ (and_congr ?_ ?_))
    · cases c.hostname <;> simp [hostnameDiff]
    · rw [List.flatMap_eq_nil_iff, List.eq_nil_iff_forall_not_mem]
      exact forall_congr' fun name =>
        ⟨fun h hn => List.cons_ne_nil _ _ (h hn), fun h hn => (h hn).elim⟩
    · rw [List.flatMap_eq_nil_iff]
      constructor
      · intro h name i hi
        exact interfaceDiff_eq_nil_iff.mp (h (name, i) (SortedMap.mem_entries_iff.mpr hi))
      · rintro h ⟨name, i⟩ hi
        exact interfaceDiff_eq_nil_iff.mpr (h name i (SortedMap.mem_entries_iff.mp hi))
    · cases c.routes with
      | none => simp
      | some routes =>
        simp only [List.append_eq_nil_iff, routeDiff_eq_nil_iff, Option.some.injEq, forall_eq']
        exact ⟨fun h r => ⟨h.1 r, h.2 r⟩, fun h => ⟨fun r => (h r).mp, fun r => (h r).mpr⟩⟩

/-! ## Agreement -/

/-- A hostname or a removal is staged, and yet the staged view is what is live. -/
def StagesNothingNew (d : Device) : Prop :=
  d.stagedView = d.liveView ∧ (d.staging.hostname ≠ none ∨ d.staging.removed.keys ≠ [])

/-- All that a commit would do is to put the routes into another order, or to change how often they
    are listed. -/
def ReordersRoutes (d : Device) : Prop :=
  d.staging.hostname = none ∧ d.staging.removed.keys = [] ∧ d.RecordsRepeatLive ∧
    ∃ routes, d.staging.routes = some routes ∧ routes ≠ d.routes ∧ SameRoutes d.routes routes

theorem pendingDiff_of_reordersRoutes {d : Device} (h : d.ReordersRoutes) :
    d.pendingDiff = [] ∧ d.hasPendingChanges = true := by
  obtain ⟨hname, hremoved, hrecords, routes, hroutes, hne, hsame⟩ := h
  refine ⟨(pendingDiff_eq_nil_iff d).mpr ⟨hname, hremoved, hrecords, fun others hothers => ?_⟩, ?_⟩
  · cases hroutes.symm.trans hothers
    exact hsame
  · rw [← Bool.not_eq_false]
    exact fun hnone => hne (((hasPendingChanges_eq_false_iff d).mp hnone).2.2.1 routes hroutes)

theorem pendingDiff_of_stagesNothingNew {d : Device} (hd : d.CandidateDisjoint)
    (h : d.StagesNothingNew) : d.pendingDiff ≠ [] ∧ d.hasPendingChanges = false := by
  refine ⟨fun hnil => ?_, (hasPendingChanges_eq_false_iff_view hd).mpr h.1⟩
  obtain ⟨hname, hremoved, _⟩ := (pendingDiff_eq_nil_iff d).mp hnil
  exact h.2.elim (fun hn => hn hname) fun hr => hr hremoved

/-- The listing and the pending changes agree, except in the two cases. -/
theorem pendingDiff_agrees_iff {d : Device} (hd : d.CandidateDisjoint) :
    (d.pendingDiff = [] ↔ d.hasPendingChanges = false) ↔
      ¬ d.StagesNothingNew ∧ ¬ d.ReordersRoutes := by
  constructor
  · intro hagrees
    refine ⟨fun hsame => ?_, fun hroutes => ?_⟩
    · obtain ⟨hlisted, hnone⟩ := pendingDiff_of_stagesNothingNew hd hsame
      exact hlisted (hagrees.mpr hnone)
    · obtain ⟨hnil, hpending⟩ := pendingDiff_of_reordersRoutes hroutes
      rw [hagrees.mp hnil] at hpending
      cases hpending
  · rintro ⟨hnew, hroutes⟩
    rw [pendingDiff_eq_nil_iff]
    constructor
    · -- with neither hostname nor removal, all that could be pending is an order of routes
      rintro ⟨hname, hremoved, hrecords, hsame⟩
      refine (hasPendingChanges_eq_false_iff d).mpr ⟨hrecords, fun name hr => ?_,
        fun routes hr => ?_, fun name hn => ?_⟩
      · rw [← SortedMap.mem_keys_iff, hremoved] at hr
        cases hr
      · refine Decidable.byContradiction fun hne => ?_
        exact hroutes ⟨hname, hremoved, hrecords, routes, hr, hne, hsame routes hr⟩
      · rw [hname] at hn
        cases hn
    · intro hnone
      have hview := stagedView_of_not_pending hnone
      obtain ⟨hrecords, _, hsame, _⟩ := (hasPendingChanges_eq_false_iff d).mp hnone
      refine ⟨?_, ?_, hrecords, fun routes hr => ?_⟩
      · exact Decidable.byContradiction fun hn => hnew ⟨hview, Or.inl hn⟩
      · exact Decidable.byContradiction fun hr => hnew ⟨hview, Or.inr hr⟩
      · rw [hsame routes hr]
        exact fun _ => Iff.rfl

/-- **What `show | compare` tells.** On a Junos device that starts without a candidate, after any
    lines and edits, something is pending exactly when a commit would change what is live. The
    listing of the differences is empty exactly when nothing is pending, but for two cases: a
    hostname or a removal that changes nothing is listed, and routes that only come in another order
    or another number are not. -/
theorem compare_agrees_iff (d : Device) (hf : d.family = .juniper) (h : d.candidate = none)
    (actions : List (Inventory × Action)) :
    let r := d.run actions
    (r.hasPendingChanges = true ↔ r.commit.1.liveView ≠ r.liveView) ∧
    ((r.pendingDiff = [] ↔ r.hasPendingChanges = false) ↔
      ¬ r.StagesNothingNew ∧ ¬ r.ReordersRoutes) := by
  intro r
  have hd : r.CandidateDisjoint := candidateDisjoint_run hf (candidateDisjoint_of_none h) actions
  refine ⟨?_, pendingDiff_agrees_iff hd⟩
  rw [liveView_commit, ← Bool.not_eq_false, Ne, hasPendingChanges_eq_false_iff_view hd]

/-- A route that is deleted and put back comes last: a commit would change the routes, and nothing
    is listed. -/
theorem compare_agrees_iff_reordered :
    let d : Device :=
      { id := "r1", name := "r1", kind := .router, vendor := .juniper
        routes := [{ destination := "10.1.0.0/16", nextHop := "10.0.0.1" },
          { destination := "10.2.0.0/16", nextHop := "10.0.0.2" }] }
    let lines : List String :=
      ["configure", "delete routing-options static route 10.1.0.0/16",
        "set routing-options static route 10.1.0.0/16 next-hop 10.0.0.1"]
    let r := d.run (lines.map fun text => (SortedMap.empty, .line text))
    d.candidate = none ∧ r.commit.1.liveView ≠ r.liveView ∧ r.ReordersRoutes ∧
      ¬ (r.pendingDiff = [] ↔ r.hasPendingChanges = false) := by
  intro d lines r
  obtain ⟨hpending, hagrees⟩ :=
    compare_agrees_iff d rfl rfl (lines.map fun text => (SortedMap.empty, .line text))
  obtain ⟨hstaging, hlive⟩ :
      r.staging = { routes := some d.routes.reverse } ∧ r.routes = d.routes := by decide +kernel
  have hroutes : r.ReordersRoutes := by
    refine ⟨?_, ?_, ?_, d.routes.reverse, ?_, ?_, ?_⟩
    · rw [hstaging]
    · rw [hstaging]
      rfl
    · intro name i hi
      rw [hstaging] at hi
      cases hi
    · rw [hstaging]
    · rw [hlive]
      decide
    · rw [hlive]
      exact fun _ => List.mem_reverse.symm
  have hchanged : r.hasPendingChanges = true := (pendingDiff_of_reordersRoutes hroutes).2
  exact ⟨rfl, hpending.mp hchanged, hroutes, fun h => (hagrees.mp h).2 hroutes⟩

/-- The hostname that the device has already is listed when it is staged once more, although nothing
    is pending. -/
theorem compare_lists_repeated_hostname :
    let d : Device := { id := "r1", name := "r1", kind := .router, vendor := .juniper }
    let lines : List String := ["configure", "set system host-name r1"]
    let r := d.run (lines.map fun text => (SortedMap.empty, .line text))
    d.family = .juniper ∧ d.candidate = none ∧
      ¬ (r.pendingDiff = [] ↔ r.hasPendingChanges = false) := by
  intro d lines r
  obtain ⟨hlisted, hnone⟩ : r.pendingDiff ≠ [] ∧ r.hasPendingChanges = false := by
    decide +kernel
  exact ⟨rfl, rfl, fun h => hlisted (h.mpr hnone)⟩

/-! ## The report of a commit -/

theorem report_commit (d : Device) : d.commit.2 = d.hasPendingChanges := by
  rw [commit_eq]

/-- Without a candidate there is nothing to commit. -/
theorem commit_of_none {d : Device} (h : d.candidate = none) : d.commit = (d, false) := by
  have hnone : d.hasPendingChanges = false := by rw [hasPendingChanges, h]
  have hsame : d.discard = d := by rw [discard, ← h]
  rw [commit, hnone, hsame]
  rfl

/-- **A commit reports what it does.** On a Junos device that starts without a candidate, after any
    lines and edits, something is pending exactly when the staged interfaces, routes or hostname
    differ from the live ones. A commit reports a change exactly when it changes one of the live
    ones. No candidate is left, and another commit right after it reports nothing and changes
    nothing. -/
theorem commit_reports_changes (d : Device) (hf : d.family = .juniper) (h : d.candidate = none)
    (actions : List (Inventory × Action)) :
    let r := d.run actions
    (r.hasPendingChanges = true ↔ r.stagedInterfaces ≠ r.interfaces ∨
      r.stagedRoutes ≠ r.routes ∨ r.stagedHostname ≠ r.name) ∧
    (r.commit.2 = true ↔ r.commit.1.interfaces ≠ r.interfaces ∨
      r.commit.1.routes ≠ r.routes ∨ r.commit.1.name ≠ r.name) ∧
    r.commit.1.candidate = none ∧
    r.commit.1.commit = (r.commit.1, false) := by
  intro r
  have hd : r.CandidateDisjoint := candidateDisjoint_run hf (candidateDisjoint_of_none h) actions
  have hpending : r.hasPendingChanges = true ↔ r.stagedView ≠ r.liveView := by
    rw [← Bool.not_eq_false, Ne, hasPendingChanges_eq_false_iff_view hd]
  refine ⟨hpending.trans WorkingCopy.ne_iff, ?_, candidate_commit r,
    commit_of_none (candidate_commit r)⟩
  rw [report_commit, hpending, ← liveView_commit r]
  exact WorkingCopy.ne_iff

/-- A record that repeats the live one and the removal of an interface that was only ever staged
    are no changes. The next edit makes one, which the first commit reports and the second does
    not. -/
theorem commit_reports_changes_overlaid :
    let d : Device :=
      { id := "r1", name := "r1", kind := .router, vendor := .juniper
        interfaces := SortedMap.ofList [("ge-0/0/0", { up := false })] }
    let idle : List (Inventory × Action) :=
      [(SortedMap.empty, .line "configure"),
        (SortedMap.empty, .line "set interfaces ge-0/0/0 disable"),
        (SortedMap.empty, .line "edit interfaces ge-0/0/9"),
        (SortedMap.empty, .line "top"),
        (SortedMap.empty, .line "delete interfaces ge-0/0/9")]
    let raised := idle ++ [(SortedMap.empty, .edit (.interface "ge-0/0/0" .toggle))]
    (d.run idle).candidate ≠ none ∧ (d.run idle).hasPendingChanges = false ∧
      (d.run raised).commit.2 = true ∧ (d.run raised).commit.1.commit.2 = false := by
  intro d idle raised
  obtain ⟨hpending, _⟩ := commit_reports_changes d rfl rfl idle
  obtain ⟨_, hreport, _, hagain⟩ := commit_reports_changes d rfl rfl raised
  obtain ⟨hstaged, hinterfaces, hroutes, hname, hchanged⟩ :
      (d.run idle).candidate ≠ none ∧
        (d.run idle).stagedInterfaces = (d.run idle).interfaces ∧
        (d.run idle).stagedRoutes = (d.run idle).routes ∧
        (d.run idle).stagedHostname = (d.run idle).name ∧
        (d.run raised).commit.1.interfaces ≠ (d.run raised).interfaces := by
    decide +kernel
  refine ⟨hstaged, ?_, hreport.mpr (Or.inl hchanged), congrArg Prod.snd hagain⟩
  rw [← Bool.not_eq_true, hpending]
  simp [hinterfaces, hroutes, hname]

end Device

end TrainingLab
