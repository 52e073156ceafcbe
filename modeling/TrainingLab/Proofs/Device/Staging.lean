import TrainingLab.Device.Staging
import TrainingLab.Proofs.SortedMap

/-
  Staging refines a working copy. A candidate is an overlay: the records that were touched, the
  names that were removed, and the routes and the hostname if they were changed. `WorkingCopy` is
  the plain alternative, a whole copy of the live interfaces, routes and hostname on which every
  change is carried out at once.

  Proved:
  * `stagedView_stage`: one change does to the staged view what it does to a working copy, for any
    candidate.
  * `candidateDisjoint_stage`: no name is both removed and recorded, which makes the two readers of
    the overlay agree (`stagedInterface?_eq`).
  * `commit_eq`: a commit makes the staged view live, also when it finds nothing pending
    (`stagedView_of_not_pending`).
  * `staging_refines_workingCopy`: all of this along a run of changes.
-/

namespace TrainingLab

/-- The interfaces, the routes and the hostname of a device, as one value. -/
structure WorkingCopy where
  interfaces : SortedMap String Interface
  routes : List Route
  hostname : String
deriving DecidableEq

/-- A change of the configuration that can be staged. -/
inductive Change
  | interface (name : String) (edit : Interface → Interface)
  | removal (name : String)
  | routes (edit : List Route → List Route)
  | hostname (name : String)

/-- Carries a change out on a working copy. An interface that does not exist starts
    unconfigured. -/
def WorkingCopy.apply (w : WorkingCopy) : Change → WorkingCopy
  | .interface name edit =>
    { w with
      interfaces := w.interfaces.insert name (edit ((w.interfaces.find? name).getD {})) }
  | .removal name => { w with interfaces := w.interfaces.erase name }
  | .routes edit => { w with routes := edit w.routes }
  | .hostname name => { w with hostname := name }

namespace Candidate

/-- No name is both removed and recorded. -/
def Disjoint (c : Candidate) : Prop :=
  ∀ name, c.removed.contains name = true → c.interfaces.find? name = none

/-- The candidate laid over a map of interfaces: removals first, then the records. -/
def overlayInterfaces (c : Candidate) (live : SortedMap String Interface) :
    SortedMap String Interface :=
  (live.eraseAll c.removed.keys).insertAll c.interfaces.entries

/-- The candidate laid over a working copy. -/
def overlay (c : Candidate) (w : WorkingCopy) : WorkingCopy where
  interfaces := c.overlayInterfaces w.interfaces
  routes := c.routes.getD w.routes
  hostname := c.hostname.getD w.hostname

theorem find?_overlayInterfaces (c : Candidate) (live : SortedMap String Interface)
    (name : String) :
    (c.overlayInterfaces live).find? name =
      (c.interfaces.find? name).or
        (if c.removed.contains name then none else live.find? name) := by
  unfold overlayInterfaces
  rw [SortedMap.find?_insertAll, SortedMap.find?_eraseAll]
  simp only [SortedMap.mem_keys_iff]

/-- A record put into a candidate, with its name no longer removed, is put into the view. -/
theorem overlayInterfaces_record (c : Candidate) (live : SortedMap String Interface) (name : String)
    (i : Interface) :
    ({ c with
        interfaces := c.interfaces.insert name i
        removed := c.removed.erase name } : Candidate).overlayInterfaces live =
      (c.overlayInterfaces live).insert name i := by
  refine SortedMap.ext_find? fun k => ?_
  rw [find?_overlayInterfaces, SortedMap.find?_insert (c.overlayInterfaces live),
    find?_overlayInterfaces]
  by_cases hk : k = name
  · simp [hk]
  · simp [hk]

/-- A name removed from a candidate, record included, is removed from the view. -/
theorem overlayInterfaces_removal (c : Candidate) (live : SortedMap String Interface)
    (name : String) :
    ({ c with
        interfaces := c.interfaces.erase name
        removed := c.removed.insert name () } : Candidate).overlayInterfaces live =
      (c.overlayInterfaces live).erase name := by
  refine SortedMap.ext_find? fun k => ?_
  rw [find?_overlayInterfaces, SortedMap.find?_erase (c.overlayInterfaces live),
    find?_overlayInterfaces]
  by_cases hk : k = name
  · simp [hk]
  · simp [hk]

end Candidate

namespace Device

/-- What is live, as a working copy. -/
def liveView (d : Device) : WorkingCopy := ⟨d.interfaces, d.routes, d.name⟩

/-- What a commit would make live, as a working copy. -/
def stagedView (d : Device) : WorkingCopy :=
  ⟨d.stagedInterfaces, d.stagedRoutes, d.stagedHostname⟩

/-- The candidate, if there is one, is disjoint. -/
def CandidateDisjoint (d : Device) : Prop := ∀ c, d.candidate = some c → c.Disjoint

/-- Stages a change. -/
def stage (d : Device) : Change → Device
  | .interface name edit => d.stageInterface name edit
  | .removal name => d.stageRemoval name
  | .routes edit => d.stageRoutes edit
  | .hostname name => d.stageHostname name

/-- Stages changes one after the other. -/
def stageAll (d : Device) (changes : List Change) : Device := changes.foldl stage d

/-! ## Reading the overlay -/

theorem stagedView_eq_overlay (d : Device) : d.stagedView = d.staging.overlay d.liveView := by
  unfold stagedView stagedInterfaces stagedRoutes stagedHostname staging
  cases d.candidate with
  | none => rfl
  | some c => rfl

theorem find?_stagedInterfaces (d : Device) (name : String) :
    d.stagedInterfaces.find? name =
      (d.staging.interfaces.find? name).or
        (if d.staging.removed.contains name then none else d.interfaces.find? name) := by
  have h : d.stagedInterfaces = d.staging.overlayInterfaces d.interfaces :=
    congrArg WorkingCopy.interfaces (stagedView_eq_overlay d)
  rw [h, Candidate.find?_overlayInterfaces]

theorem stagedInterface?_eq_overlay (d : Device) (name : String) :
    d.stagedInterface? name =
      if d.staging.removed.contains name then none
      else (d.staging.interfaces.find? name).or (d.interfaces.find? name) := by
  unfold stagedInterface? staging
  cases d.candidate with
  | none => rfl
  | some c => rfl

theorem disjoint_staging {d : Device} (h : d.CandidateDisjoint) : d.staging.Disjoint := by
  unfold staging
  cases hc : d.candidate with
  | none => intro name hr; cases hr
  | some c => exact h c hc

/-- The two readers of the overlay agree where removals and records are disjoint. -/
theorem stagedInterface?_eq {d : Device} (h : d.CandidateDisjoint) (name : String) :
    d.stagedInterface? name = d.stagedInterfaces.find? name := by
  rw [stagedInterface?_eq_overlay, find?_stagedInterfaces]
  by_cases hr : d.staging.removed.contains name = true
  · simp [hr, disjoint_staging h name hr]
  · simp [hr]

/-- The record that a change of an interface starts from is the one of the staged view. Both
    readers give it, disjoint or not, because the candidate's own copy comes first. -/
theorem stagedRecord_eq (d : Device) (name : String) :
    (d.staging.interfaces.find? name).getD ((d.stagedInterface? name).getD {}) =
      (d.stagedView.interfaces.find? name).getD {} := by
  show _ = (d.stagedInterfaces.find? name).getD {}
  rw [stagedInterface?_eq_overlay, find?_stagedInterfaces]
  cases d.staging.interfaces.find? name with
  | some i => rfl
  | none => rfl

/-! ## One change -/

/-- One change does to the staged view what it does to a working copy. -/
theorem stagedView_stage (d : Device) (c : Change) :
    (d.stage c).stagedView = d.stagedView.apply c := by
  cases c with
  | interface name edit =>
    simp only [WorkingCopy.apply, ← stagedRecord_eq]
    rw [stagedView_eq_overlay, stagedView_eq_overlay]
    exact congrArg (WorkingCopy.mk · _ _) (Candidate.overlayInterfaces_record _ _ name _)
  | removal name =>
    rw [stagedView_eq_overlay, stagedView_eq_overlay]
    exact congrArg (WorkingCopy.mk · _ _) (Candidate.overlayInterfaces_removal _ _ name)
  | routes edit =>
    rw [stagedView_eq_overlay, stagedView_eq_overlay]
    rfl
  | hostname name =>
    rw [stagedView_eq_overlay, stagedView_eq_overlay]
    rfl

theorem liveView_stage (d : Device) (c : Change) : (d.stage c).liveView = d.liveView := by
  cases c <;> rfl

/-- One change keeps removals and records apart. -/
theorem candidateDisjoint_stage {d : Device} (h : d.CandidateDisjoint) (c : Change) :
    (d.stage c).CandidateDisjoint := by
  have hd := disjoint_staging h
  cases c with
  | interface name edit =>
    rintro _ ⟨⟩ k hk
    simp only [SortedMap.contains_erase, SortedMap.find?_insert] at hk ⊢
    by_cases hkn : k = name
    · simp [hkn] at hk
    · simp only [hkn, if_false] at hk ⊢
      exact hd k hk
  | removal name =>
    rintro _ ⟨⟩ k hk
    simp only [SortedMap.contains_insert, SortedMap.find?_erase] at hk ⊢
    by_cases hkn : k = name
    · simp [hkn]
    · simp only [hkn, if_false] at hk ⊢
      exact hd k hk
  | routes edit =>
    rintro _ ⟨⟩
    exact hd
  | hostname name =>
    rintro _ ⟨⟩
    exact hd

/-! ## Commit and discard -/

/-- With nothing pending the overlay changes nothing: records repeat live ones, and what is removed
    is not there. -/
theorem stagedView_of_not_pending {d : Device} (h : d.hasPendingChanges = false) :
    d.stagedView = d.liveView := by
  rw [stagedView_eq_overlay]
  unfold hasPendingChanges at h
  unfold staging
  cases hc : d.candidate with
  | none => rfl
  | some c =>
    simp only [hc, Bool.or_eq_false_iff, List.any_eq_false] at h
    obtain ⟨⟨⟨hrecords, hremoved⟩, hroutes⟩, hname⟩ := h
    have hi : c.overlayInterfaces d.interfaces = d.interfaces := by
      refine SortedMap.ext_find? fun k => ?_
      rw [Candidate.find?_overlayInterfaces]
      cases hk : c.interfaces.find? k with
      | some i =>
        have hlive : d.interfaces.find? k = some i := by
          simpa using hrecords (k, i) (SortedMap.mem_entries_iff.mpr hk)
        rw [hlive]
        rfl
      | none =>
        by_cases hr : c.removed.contains k = true
        · have habsent := Bool.eq_false_iff.mpr (hremoved k (SortedMap.mem_keys_iff.mpr hr))
          simp [hr, SortedMap.contains_eq_false_iff.mp habsent]
        · simp [hr]
    have hr : c.routes.getD d.routes = d.routes := by
      cases hcr : c.routes with
      | none => rfl
      | some r => simpa [hcr] using hroutes
    have hn : c.hostname.getD d.name = d.name := by
      cases hcn : c.hostname with
      | none => rfl
      | some n => simpa [hcn] using hname
    show (⟨c.overlayInterfaces d.interfaces, c.routes.getD d.routes, c.hostname.getD d.name⟩ :
      WorkingCopy) = ⟨d.interfaces, d.routes, d.name⟩
    rw [hi, hr, hn]

/-- A commit puts the staged view in the place of what is live and drops the candidate. That is
    also so if it finds nothing pending, and it reports whether it did. -/
theorem commit_eq (d : Device) :
    d.commit =
      ({ d with
        interfaces := d.stagedInterfaces
        routes := d.stagedRoutes
        name := d.stagedHostname
        candidate := none }, d.hasPendingChanges) := by
  cases hpending : d.hasPendingChanges with
  | true =>
    cases hc : d.candidate with
    | none => simp [hasPendingChanges, hc] at hpending
    | some c => simp [commit, hpending, hc, stagedInterfaces, stagedRoutes, stagedHostname]
  | false =>
    have hview : (⟨d.stagedInterfaces, d.stagedRoutes, d.stagedHostname⟩ : WorkingCopy) =
        ⟨d.interfaces, d.routes, d.name⟩ := stagedView_of_not_pending hpending
    obtain ⟨hinterfaces, hroutes, hname⟩ := WorkingCopy.mk.inj hview
    simp [commit, hpending, discard, hinterfaces, hroutes, hname]

theorem liveView_commit (d : Device) : d.commit.1.liveView = d.stagedView := by
  rw [commit_eq]
  rfl

theorem candidate_commit (d : Device) : d.commit.1.candidate = none := by
  rw [commit_eq]

theorem stagedView_discard (d : Device) : d.discard.stagedView = d.liveView := rfl

theorem liveView_discard (d : Device) : d.discard.liveView = d.liveView := rfl

/-! ## Runs -/

theorem stageAll_cons (d : Device) (c : Change) (changes : List Change) :
    d.stageAll (c :: changes) = (d.stage c).stageAll changes := rfl

theorem stagedView_stageAll (d : Device) (changes : List Change) :
    (d.stageAll changes).stagedView = changes.foldl WorkingCopy.apply d.stagedView := by
  induction changes generalizing d with
  | nil => rfl
  | cons c rest ih => rw [stageAll_cons, ih, stagedView_stage, List.foldl_cons]

theorem liveView_stageAll (d : Device) (changes : List Change) :
    (d.stageAll changes).liveView = d.liveView := by
  induction changes generalizing d with
  | nil => rfl
  | cons c rest ih => rw [stageAll_cons, ih, liveView_stage]

theorem candidateDisjoint_stageAll {d : Device} (h : d.CandidateDisjoint)
    (changes : List Change) : (d.stageAll changes).CandidateDisjoint := by
  induction changes generalizing d with
  | nil => exact h
  | cons c rest ih => exact ih (candidateDisjoint_stage h c)

theorem candidateDisjoint_of_none {d : Device} (h : d.candidate = none) :
    d.CandidateDisjoint := by
  intro c hc
  rw [h] at hc
  cases hc

/-- **Staging refines a working copy.** After any run of changes on a device without a candidate,
    the staged view is what the changes make of a copy of the live configuration, which they leave
    alone. All along, removals and records are disjoint, and an interface read by its name is the
    one in the staged map. A commit then makes the view live and leaves no candidate; a discard
    takes the view back to what is live. -/
theorem staging_refines_workingCopy (d : Device) (h : d.candidate = none)
    (changes : List Change) :
    (d.stageAll changes).stagedView = changes.foldl WorkingCopy.apply d.liveView ∧
    (d.stageAll changes).liveView = d.liveView ∧
    (∀ done, done <+: changes →
      (d.stageAll done).CandidateDisjoint ∧
      ∀ name, (d.stageAll done).stagedInterface? name =
        (d.stageAll done).stagedInterfaces.find? name) ∧
    (d.stageAll changes).commit.1.liveView = (d.stageAll changes).stagedView ∧
    (d.stageAll changes).commit.1.candidate = none ∧
    (d.stageAll changes).discard.stagedView = (d.stageAll changes).discard.liveView ∧
    (d.stageAll changes).discard.liveView = d.liveView := by
  have hstart : d.stagedView = d.liveView := by
    rw [stagedView_eq_overlay, staging, h]
    rfl
  have hdisjoint : d.CandidateDisjoint := candidateDisjoint_of_none h
  refine ⟨?_, liveView_stageAll d changes, ?_, liveView_commit _, candidate_commit _, ?_, ?_⟩
  · rw [stagedView_stageAll, hstart]
  · intro done _
    have hdone := candidateDisjoint_stageAll hdisjoint done
    exact ⟨hdone, stagedInterface?_eq hdone⟩
  · rw [stagedView_discard, liveView_discard]
  · rw [liveView_discard, liveView_stageAll]

/-- An interface that is disabled, removed and made again comes back unconfigured, and is committed
    so. -/
theorem staging_refines_workingCopy_remade :
    let d : Device :=
      { id := "r1", name := "r1", kind := .router, vendor := .juniper
        interfaces := SortedMap.ofList [("ge-0/0/0", { ip := "10.0.0.1", mask := "24" })] }
    let changes : List Change :=
      [.interface "ge-0/0/0" (·.setUp false), .removal "ge-0/0/0",
        .interface "ge-0/0/0" (·.setZone (some "trust")), .hostname "r2"]
    d.candidate = none ∧
      (d.stageAll changes).commit.1.liveView =
        ⟨SortedMap.ofList [("ge-0/0/0", { zone := some "trust" })], [], "r2"⟩ := by
  intro d changes
  obtain ⟨hview, _, _, hcommit, _⟩ := staging_refines_workingCopy d rfl changes
  refine ⟨rfl, ?_⟩
  rw [hcommit, hview]
  decide +kernel

end Device

end TrainingLab
