import TrainingLab.Proofs.Lab.Simulation
import TrainingLab.Proofs.Session.Scrollback

/-
  Every line of a scrollback is shown once. A session counts for each device how much of its
  scrollback has been shown. Three operations move the counter, each to the end of the scrollback,
  and what they show has to be all that lies in between: for a line or an edit this takes that the
  console has been caught up with before.

  Proved:
  * `Tracked.replaced`: what is shown up to the end of a scrollback carries the account on.
  * `tracked_step`, `tracked_run`: the account of one input, and of a run.
  * `delivered_once`: with what it says about lines that are submitted next.
-/

namespace TrainingLab

/-- What is done in a session with the scrollbacks. -/
inductive Input
  | submit (line : String)
  | edit (e : GuiEdit)
  | select (id : DeviceId)
  | unread
deriving DecidableEq

/-- The input is as it can be typed: a line without a line feed, an edit that is read from one. -/
def Input.Typed : Input → Prop
  | submit line => '\n' ∉ (Text.trim line).toList
  | edit e => ∃ line, MetaCommand.read line = .ok (.gui e)
  | select _ => True
  | unread => True

/-- The input adds to the scrollback of the open console. -/
def Input.adds : Input → Bool
  | submit _ => true
  | edit _ => true
  | select _ => false
  | unread => false

/-- A part of the scrollback of a device that is shown. -/
structure Delivery where
  device : DeviceId
  start : Nat
  lines : List String
deriving DecidableEq

namespace Delivery

/-- The part has the entry with that index of the scrollback of a device. -/
def covers (id : DeviceId) (i : Nat) (p : Delivery) : Bool :=
  p.device == id && decide (p.start ≤ i ∧ i < p.start + p.lines.length)

/-- The lines of the part are what stands at its place in the scrollback of the device. -/
def Shows (p : Delivery) (d : Device) : Prop :=
  p.start ≤ d.history.length ∧ p.lines <+: d.history.drop p.start

theorem Shows.extend {p : Delivery} {d d' : Device} (h : p.Shows d) {new : List String}
    (hnew : d'.history = d.history ++ new) : p.Shows d' := by
  obtain ⟨hstart, hlines⟩ := h
  refine ⟨by rw [hnew, List.length_append]; omega, ?_⟩
  rw [hnew, List.drop_append_of_le_length hstart]
  exact hlines.trans (List.prefix_append _ _)

end Delivery

namespace Session

/-- Takes an input, and tells what is shown because of it. A line is shown as it is typed, which
    is its echo in the scrollback. -/
def take (s : Session) : Input → Except SessionError (Session × List Delivery)
  | .submit line => do
    let before ← s.active
    let (s', out) ← s.submit line
    return (s', [⟨s.activeId, before.history.length, before.echoLines line ++ out⟩])
  | .edit e => do
    let (s', text) ← s.applyEdit e
    let after ← s'.active
    return (s', [⟨s.activeId, after.history.length - 1, [text]⟩])
  | .select id => do
    let s' ← s.select id
    return (s', [])
  | .unread => do
    let (s', lines) ← s.unread
    return (s', [⟨s.activeId, s.shownOf s.activeId, lines⟩])

/-- The session after an input; one that fails leaves it as it is and shows nothing. -/
def step (s : Session) (i : Input) : Session × List Delivery :=
  match s.take i with
  | .ok result => result
  | .error _ => (s, [])

/-- The session after inputs in their order, and all that was shown. -/
def run (s : Session) : List Input → Session × List Delivery
  | [] => (s, [])
  | i :: rest => (((s.step i).1.run rest).1, (s.step i).2 ++ ((s.step i).1.run rest).2)

/-- Whether the open console is still to be caught up with, after an input. -/
def dueAfter (s : Session) (due : Bool) : Input → Bool
  | .submit _ => due
  | .edit _ => due
  | .select id => due || s.lab.devices.contains id
  | .unread => false

/-- Nothing is added to a console that is still to be caught up with, as the one is that has just
    been opened. -/
def CatchesUp (due : Bool) (s : Session) : List Input → Prop
  | [] => True
  | i :: rest => (due = true → i.adds = false) ∧ (s.step i).1.CatchesUp (s.dueAfter due i) rest

/-! ## The account -/

/-- The account of a session: where the counters started and stand, and what has been shown. -/
structure Tracked (start : DeviceId → Nat) (due : Bool) (s : Session)
    (deliveries : List Delivery) : Prop where
  keyed : s.lab.devices.Keyed
  opened : ∃ d, s.lab.devices.find? s.activeId = some d
  started : ∀ id, start id ≤ s.shownOf id
  bounded : ∀ id d, s.lab.devices.find? id = some d → s.shownOf id ≤ d.history.length
  caughtUp : due = false → ∀ d, s.lab.devices.find? s.activeId = some d →
    s.shownOf s.activeId = d.history.length
  covered : ∀ id i, deliveries.countP (Delivery.covers id i) =
    if start id ≤ i ∧ i < s.shownOf id then 1 else 0
  faithful : ∀ p ∈ deliveries, ∃ d, s.lab.devices.find? p.device = some d ∧ p.Shows d

variable {start : DeviceId → Nat} {due : Bool} {s : Session} {deliveries : List Delivery}

theorem shownOf_replaced (d : Device) (id : DeviceId) :
    (s.replaced d).shownOf id = if id = s.activeId then d.history.length else s.shownOf id := by
  unfold shownOf replaced
  rw [SortedMap.find?_insert]
  split <;> rfl

theorem find?_replaced (d : Device) (id : DeviceId) :
    (s.replaced d).lab.devices.find? id =
      if id = s.activeId then some d else s.lab.devices.find? id :=
  SortedMap.find?_insert _ _ _ _

/-- If a scrollback grows and all of it that was not shown yet is shown, the account goes on. -/
theorem Tracked.replaced (h : Tracked start due s deliveries) {d d' : Device}
    (hd : s.lab.devices.find? s.activeId = some d) (hid : d'.id = d.id) {new : List String}
    (hnew : d'.history = d.history ++ new) :
    Tracked start false (s.replaced d') (deliveries ++
      [⟨s.activeId, s.shownOf s.activeId, d'.history.drop (s.shownOf s.activeId)⟩]) := by
  have hbefore : s.shownOf s.activeId ≤ d.history.length := h.bounded _ d hd
  have hlength : d.history.length ≤ d'.history.length := by rw [hnew, List.length_append]; omega
  have hactive : (s.replaced d').lab.devices.find? s.activeId = some d' :=
    (find?_replaced d' _).trans (if_pos rfl)
  refine ⟨Lab.keyed_insert h.keyed (hid.trans (h.keyed _ d hd)), ⟨d', hactive⟩, fun id => ?_,
    fun id e he => ?_, fun _ e he => ?_, fun id i => ?_, fun p hp => ?_⟩
  · have hstarted := h.started id
    rw [shownOf_replaced]
    split
    next heq =>
      subst heq
      exact Nat.le_trans (Nat.le_trans hstarted hbefore) hlength
    next => exact hstarted
  · rw [find?_replaced] at he
    rw [shownOf_replaced]
    split at he
    next heq =>
      cases he
      exact Nat.le_of_eq (if_pos heq)
    next hne => rw [if_neg hne]; exact h.bounded id e he
  · cases hactive.symm.trans he
    exact (shownOf_replaced d' _).trans (if_pos rfl)
  · -- the new part begins where the others of its device end
    have hstarted := h.started id
    rw [List.countP_append, h.covered, List.countP_singleton, shownOf_replaced]
    simp only [Delivery.covers, List.length_drop, Bool.and_eq_true, beq_iff_eq,
      decide_eq_true_eq]
    by_cases heq : id = s.activeId
    · subst heq
      simp only [true_and, if_true]
      split <;> split <;> split <;> omega
    · simp only [Ne.symm heq, heq, false_and, if_false, Nat.add_zero]
  · rcases List.mem_append.mp hp with hp | hp
    · obtain ⟨e, he, hshows⟩ := h.faithful p hp
      rw [find?_replaced]
      split
      next heq =>
        rw [heq, hd] at he
        cases he
        exact ⟨d', rfl, hshows.extend hnew⟩
      next => exact ⟨e, he, hshows⟩
    · rw [List.mem_singleton.mp hp]
      exact ⟨d', hactive, by dsimp only; omega, List.prefix_refl _⟩

/-! ## Inputs -/

theorem take_submit (hk : s.lab.devices.Keyed) {d : Device}
    (hd : s.lab.devices.find? s.activeId = some d) {line : String}
    (hline : '\n' ∉ (Text.trim line).toList) :
    s.take (.submit line) = .ok (s.replaced (d.interpret s.lab.devices line),
      [⟨s.activeId, d.history.length,
        (d.interpret s.lab.devices line).history.drop d.history.length⟩]) := by
  obtain ⟨answer, hsubmit, hhistory, _⟩ := submit_answer hk hd hline
  rw [hhistory, List.append_assoc, List.drop_left]
  simp only [take, active_of_some hd, hsubmit, bind, Except.bind]
  rfl

theorem take_edit (hk : s.lab.devices.Keyed) {d : Device}
    (hd : s.lab.devices.find? s.activeId = some d) {e : GuiEdit} (he : e.OneLine) :
    s.take (.edit e) = .ok (s.replaced (d.applyEdit e),
      [⟨s.activeId, d.history.length, (d.applyEdit e).history.drop d.history.length⟩]) := by
  obtain ⟨text, htext⟩ := d.history_applyEdit he
  have hactive : (s.replaced (d.applyEdit e)).active = .ok (d.applyEdit e) :=
    active_of_some (find?_activeId_insert s _)
  simp only [take, applyEdit_of_some hk hd, bind, Except.bind, hactive, htext, List.drop_left,
    List.getLast?_concat, Option.getD_some, List.length_append, List.length_singleton,
    Nat.add_sub_cancel]
  rfl

theorem take_unread {d : Device} (hd : s.lab.devices.find? s.activeId = some d) :
    s.take .unread = .ok (s.replaced d,
      [⟨s.activeId, s.shownOf s.activeId, d.history.drop (s.shownOf s.activeId)⟩]) := by
  simp only [take, unread_of_some hd, bind, Except.bind]
  rfl

theorem step_of_take {i : Input} {result : Session × List Delivery} (h : s.take i = .ok result) :
    s.step i = result := by
  rw [step, h]

/-- The account goes on with every input. -/
theorem tracked_step (h : Tracked start due s deliveries) {i : Input} (htyped : i.Typed)
    (hdue : due = true → i.adds = false) :
    Tracked start (s.dueAfter due i) (s.step i).1 (deliveries ++ (s.step i).2) := by
  obtain ⟨d, hd⟩ := h.opened
  cases i with
  | submit line =>
    have hnot : due = false := Bool.eq_false_iff.mpr fun h => by cases hdue h
    obtain ⟨answer, _, hhistory, _⟩ := submit_answer h.keyed hd htyped
    rw [step_of_take (take_submit h.keyed hd htyped), dueAfter, hnot, ← h.caughtUp hnot d hd]
    rw [List.append_assoc] at hhistory
    exact h.replaced hd (Action.id_apply s.lab.devices (.line line) d) hhistory
  | edit e =>
    have hnot : due = false := Bool.eq_false_iff.mpr fun h => by cases hdue h
    obtain ⟨text, hread⟩ := htyped
    have he : e.OneLine := MetaCommand.oneLine_of_read hread
    obtain ⟨_, hhistory⟩ := d.history_applyEdit he
    rw [step_of_take (take_edit h.keyed hd he), dueAfter, hnot, ← h.caughtUp hnot d hd]
    exact h.replaced hd (Action.id_apply s.lab.devices (.edit e) d) hhistory
  | unread =>
    rw [step_of_take (take_unread hd), dueAfter]
    exact h.replaced hd rfl (List.append_nil _).symm
  | select id =>
    cases hid : s.lab.devices.find? id with
    | some other =>
      have hthere : s.lab.devices.contains id = true := SortedMap.contains_of_find? hid
      have htake : s.take (.select id) = .ok ({ s with activeId := id }, []) := by
        simp only [take, select_of_some h.keyed hid, bind, Except.bind]
        rfl
      rw [step_of_take htake, dueAfter, hthere, Bool.or_true, List.append_nil]
      exact ⟨h.keyed, ⟨other, hid⟩, h.started, h.bounded, fun hnot => Bool.noConfusion hnot,
        h.covered, h.faithful⟩
    | none =>
      have htake : s.take (.select id) = .error (.lab (.deviceNotFound id)) := by
        simp only [take, select_of_none hid, bind, Except.bind]
      have hmissing : s.lab.devices.contains id = false := SortedMap.contains_eq_false_iff.mpr hid
      rw [step, htake, dueAfter, hmissing, Bool.or_false, List.append_nil]
      exact h

/-- The account goes on along every run that catches up with each console that it opens. -/
theorem tracked_run (h : Tracked start due s deliveries) {inputs : List Input}
    (htyped : ∀ i ∈ inputs, i.Typed) (horder : s.CatchesUp due inputs) :
    ∃ due', Tracked start due' (s.run inputs).1 (deliveries ++ (s.run inputs).2) := by
  induction inputs generalizing due s deliveries with
  | nil => exact ⟨due, by rwa [run, List.append_nil]⟩
  | cons i rest ih =>
    obtain ⟨hdue, hrest⟩ := horder
    obtain ⟨hi, htyped⟩ := List.forall_mem_cons.mp htyped
    rw [run, ← List.append_assoc]
    exact ih (tracked_step h hi hdue) htyped hrest

/-! ## The start -/

theorem firstDevice?_known {l : Lab} (hr : l.Routed) {id : DeviceId}
    (h : l.firstDevice? = some id) : ∃ d, l.devices.find? id = some d := by
  unfold Lab.firstDevice? at h
  refine Option.isSome_iff_exists.mp (?_ : l.devices.contains id = true)
  split at h
  next n hn =>
    cases h
    have hmem : n ∈ l.topology := by
      rcases Option.or_eq_some_iff.mp hn with hfind | ⟨_, hhead⟩
      · exact List.mem_of_find?_eq_some hfind
      · exact List.mem_of_mem_head? hhead
    exact hr.resolved _ (List.mem_map_of_mem hmem)
  next => exact SortedMap.mem_keys_iff.mp (List.mem_of_mem_head? h)

theorem of_ofLab {l : Lab} {settings : ConsoleSettings} (h : ofLab l settings = .ok s) :
    s.lab = l ∧ l.firstDevice? = some s.activeId ∧ s.shown =
      if settings.echoBootBanner then SortedMap.empty
      else SortedMap.ofList (l.devices.entries.map fun e => (e.1, e.2.history.length)) := by
  unfold ofLab at h
  split at h
  next => cases h
  next activeId hfirst =>
    cases h
    exact ⟨rfl, hfirst, rfl⟩

/-- At the start nothing of a scrollback has been shown, or all of it. -/
theorem shownOf_ofLab {l : Lab} {settings : ConsoleSettings} (h : ofLab l settings = .ok s)
    {id : DeviceId} {d : Device} (hd : l.devices.find? id = some d) :
    s.shownOf id = if settings.echoBootBanner then 0 else d.history.length := by
  rw [shownOf, (of_ofLab h).2.2]
  split
  next => rfl
  next =>
    have hkeys : (l.devices.entries.map fun e => (e.1, e.2.history.length)).map Prod.fst =
        l.devices.keys := by
      rw [List.map_map]
      rfl
    have hlength : (SortedMap.ofList
        (l.devices.entries.map fun e => (e.1, e.2.history.length))).find? id =
        some d.history.length := by
      rw [SortedMap.find?_ofList_iff (hkeys ▸ l.devices.nodup_keys)]
      exact List.mem_map.mpr ⟨(id, d), SortedMap.mem_entries_iff.mpr hd, rfl⟩
    rw [hlength, Option.getD_some]

theorem tracked_ofLab {l : Lab} (hk : l.devices.Keyed) (hr : l.Routed)
    {settings : ConsoleSettings} (h : ofLab l settings = .ok s) : Tracked s.shownOf true s [] := by
  obtain ⟨hlab, hfirst, _⟩ := of_ofLab h
  refine ⟨hlab ▸ hk, hlab ▸ firstDevice?_known hr hfirst, fun _ => Nat.le_refl _,
    fun id d hd => ?_, nofun, fun id i => ?_, List.forall_mem_nil _⟩
  · rw [shownOf_ofLab h (hlab ▸ hd)]
    split
    next => exact Nat.zero_le _
    next => exact Nat.le_refl _
  · rw [if_neg (by omega)]
    rfl

/-! ## Runs -/

instance decidableCatchesUp (due : Bool) (s : Session) :
    (inputs : List Input) → Decidable (s.CatchesUp due inputs)
  | [] => isTrue trivial
  | i :: rest =>
    have := decidableCatchesUp (s.dueAfter due i) (s.step i).1 rest
    inferInstanceAs (Decidable (_ ∧ _))

/-- **Every line of a scrollback is shown once.** Start a session on a lab whose devices stand under
    their ids and whose topology names devices of the lab, as in every lab that a definition makes.
    Go on with typed lines and edits, opening other consoles at will, but catching up with a console
    before anything is added to it. Then, at any point,
    * a line that is submitted next adds its echo and what it shows to the scrollback, and nothing
      else; a blank one shows nothing;
    * no counter is beyond the end of its scrollback;
    * the counters started at nothing, or at the ends, as the settings have it; between the start
      and the present state of its counter, every entry of a scrollback has been shown exactly once,
      and no other entry at all;
    * what was shown for an entry is what stands there. -/
theorem delivered_once {l : Lab} (hk : l.devices.Keyed) (hr : l.Routed)
    {settings : ConsoleSettings} {s : Session} (hs : ofLab l settings = .ok s)
    (inputs : List Input) (htyped : ∀ i ∈ inputs, i.Typed) (horder : s.CatchesUp true inputs) :
    let r := (s.run inputs).1
    let deliveries := (s.run inputs).2
    (∀ line, '\n' ∉ (Text.trim line).toList →
      ∃ before after r' out, r.lab.devices.find? r.activeId = some before ∧
        r.submit line = .ok (r', out) ∧ r'.lab.devices.find? r.activeId = some after ∧
        after.history = before.history ++ before.echoLines line ++ out ∧
        (Text.trim line = "" → out = [])) ∧
    (∀ id d, r.lab.devices.find? id = some d → r.shownOf id ≤ d.history.length) ∧
    (∀ id d, l.devices.find? id = some d →
      s.shownOf id = if settings.echoBootBanner then 0 else d.history.length) ∧
    (∀ id i, deliveries.countP (Delivery.covers id i) =
      if s.shownOf id ≤ i ∧ i < r.shownOf id then 1 else 0) ∧
    (∀ p ∈ deliveries, ∃ d, r.lab.devices.find? p.device = some d ∧ p.Shows d) := by
  intro r deliveries
  obtain ⟨due, h⟩ := tracked_run (tracked_ofLab hk hr hs) htyped horder
  rw [List.nil_append] at h
  refine ⟨fun line hline => ?_, h.bounded, fun _ _ hd => shownOf_ofLab hs hd, h.covered,
    h.faithful⟩
  obtain ⟨before, hbefore⟩ := h.opened
  obtain ⟨out, hsubmit, hhistory, hblank⟩ := submit_answer h.keyed hbefore hline
  exact ⟨before, _, _, out, hbefore, hsubmit, (find?_replaced _ _).trans (if_pos rfl), hhistory,
    hblank⟩

/-- A commit that changes the hostname, and with it the prompt, is shown with an echo of the old
    prompt, which has two lines; the scrollback of the other device is caught up with before it is
    edited. -/
theorem delivered_once_renamed :
    let node (id : DeviceId) : TopologyNode :=
      { deviceId := id, label := id, icon := .router, x := .integer 0, y := .integer 0 }
    let definition : LabDefinition :=
      { id := "two", title := "", description := "", difficulty := .beginner, vendor := ""
        devices :=
          [{ id := "r1", name := "r1", kind := .router, vendor := .juniper, mode := .edit
             candidate := some { hostname := some "edge" }, history := ["banner"] },
            { id := "r2", name := "r2", kind := .router, vendor := .cisco
              history := ["one", "two"] }]
        topology := [node "r1", node "r2"] }
    let inputs : List Input :=
      [.unread, .submit "commit", .select "r2", .unread, .edit .commit]
    ∃ l s, Lab.ofDefinition definition = .ok l ∧ ofLab l {} = .ok s ∧
      (s.run inputs).2.map (fun p => (p.device, p.start, p.lines.length)) =
        [("r1", 0, 1), ("r1", 1, 3), ("r2", 0, 2), ("r2", 2, 1)] ∧
      (∀ i, (s.run inputs).2.countP (Delivery.covers "r1" i) = if i < 4 then 1 else 0) ∧
      ∀ i, (s.run inputs).2.countP (Delivery.covers "r2" i) = if i < 3 then 1 else 0 := by
  intro node definition inputs
  have hdecided : (Lab.ofDefinition definition).toOption.any (fun l =>
      (ofLab l {}).toOption.any fun s => decide (s.CatchesUp true inputs ∧
        (s.run inputs).2.map (fun p => (p.device, p.start, p.lines.length)) =
          [("r1", 0, 1), ("r1", 1, 3), ("r2", 0, 2), ("r2", 2, 1)] ∧
        (s.shownOf "r1" = 0 ∧ s.shownOf "r2" = 0) ∧
        (s.run inputs).1.shownOf "r1" = 4 ∧ (s.run inputs).1.shownOf "r2" = 3)) = true := by
    decide +kernel
  obtain ⟨l, hl, hopened⟩ := exists_of_any_toOption hdecided
  obtain ⟨s, hs, hmet⟩ := exists_of_any_toOption hopened
  obtain ⟨horder, hparts, ⟨hstart1, hstart2⟩, hend1, hend2⟩ := of_decide_eq_true hmet
  have htyped : ∀ i ∈ inputs, i.Typed := by
    have hline : '\n' ∉ (Text.trim "commit").toList := by decide
    simp only [inputs, List.forall_mem_cons]
    exact ⟨trivial, hline, trivial, trivial, ⟨":gui commit", rfl⟩, List.forall_mem_nil _⟩
  obtain ⟨_, _, _, hcovered, _⟩ := delivered_once (Lab.keyed_ofDefinition hl)
    (Lab.routed_ofDefinition hl) hs inputs htyped horder
  refine ⟨l, s, hl, hs, hparts, fun i => ?_, fun i => ?_⟩
  · rw [hcovered, hstart1, hend1]
    simp only [Nat.zero_le, true_and]
  · rw [hcovered, hstart2, hend2]
    simp only [Nat.zero_le, true_and]

end Session

end TrainingLab
