import TrainingLab.Proofs.Session.Delivery

/-
  Sessions never lose their console. The id of the open console is kept apart from the lab, it is
  chosen in three ways at the start, and it outlives a restart that puts another lab in the place of
  the old one. All along it is the id of a device of the lab, so whatever is done on the console is
  done. What can fail is to open an unknown console, to send a packet where it cannot get, and to
  restart a lab that is not in the catalog.

  An operation of a session overwrites parts of it one after the other, and it may fail in between.
  `Procedure` keeps this order, and the state in which an operation fails.

  Proved:
  * `run_of_refused`, `run_of_taken`: which calls fail, and what they leave behind.
  * `run_eq_result`: in a sound session, an operation in its steps gives what it gives as a
    function, and fails before anything is overwritten.
  * `sound_after`, `sound_afterAll`: sessions stay sound.
  * `session_safety`: all of it, for every run, with what a restart gives.
-/

namespace TrainingLab

/-! ## Labs -/

namespace Lab

/-- The lab comes from a definition: lines and edits were sent to its devices, devices were changed
    from outside, though not in their ids, and so were the texts about the lab. -/
inductive Obtained : Lab → Prop
  | made {definition : LabDefinition} {l : Lab} (h : ofDefinition definition = .ok l) : Obtained l
  | performed {l after : Lab} {o : Operation} (h : Obtained l) (hdone : l.perform o = .ok after) :
      Obtained after
  | prepared {l : Lab} {id : DeviceId} {d d' : Device} (h : Obtained l)
      (hd : l.devices.find? id = some d) (hid : d'.id = d.id) :
      Obtained { l with devices := l.devices.insert id d' }
  | described {l after : Lab} (h : Obtained l) (hid : after.id = l.id)
      (hdevices : after.devices = l.devices) (htopology : after.topology = l.topology) :
      Obtained after

/-- Devices stand under their ids, and the topology names devices of the lab. -/
structure Sound (l : Lab) : Prop where
  keyed : l.devices.Keyed
  routed : l.Routed

/-- Nothing but the devices and the topology counts. -/
theorem Sound.described {l after : Lab} (h : l.Sound) (hdevices : after.devices = l.devices)
    (htopology : after.topology = l.topology) : after.Sound := by
  have hpath : after.path = l.path := congrArg (List.map TopologyNode.deviceId) htopology
  refine ⟨hdevices ▸ h.keyed, hpath ▸ h.routed.distinct, fun id hid => ?_⟩
  rw [hdevices]
  exact h.routed.resolved id (hpath ▸ hid)

/-- Another device with the same id may take the place of one. -/
theorem Sound.insert {l : Lab} (h : l.Sound) {id : DeviceId} {d d' : Device}
    (hd : l.devices.find? id = some d) (hid : d'.id = d.id) :
    Sound { l with devices := l.devices.insert id d' } where
  keyed := keyed_insert h.keyed (hid.trans (h.keyed id d hd))
  routed := h.routed.insert id d'

theorem sound_ofDefinition {definition : LabDefinition} {l : Lab}
    (h : ofDefinition definition = .ok l) : l.Sound :=
  ⟨keyed_ofDefinition h, routed_ofDefinition h⟩

theorem Sound.perform {l after : Lab} (h : l.Sound) {o : Operation}
    (hdone : l.perform o = .ok after) : after.Sound := by
  cases hd : l.devices.find? o.device with
  | none =>
    rw [perform_of_none hd] at hdone
    cases hdone
  | some d =>
    rw [perform_of_some h.keyed hd] at hdone
    cases hdone
    exact h.insert hd (Action.id_apply l.devices o.action d)

theorem Obtained.sound {l : Lab} (h : l.Obtained) : l.Sound := by
  induction h with
  | made h => exact sound_ofDefinition h
  | performed _ hdone ih => exact ih.perform hdone
  | prepared _ hd hid ih => exact ih.insert hd hid
  | described _ _ hdevices htopology ih => exact ih.described hdevices htopology

end Lab

namespace Session

/-! ## Operations in their steps -/

/-- An operation as it goes on: it reads the session, overwrites parts of it, and may fail at any
    point, with what has been overwritten until then. -/
abbrev Procedure := EStateM SessionError Session

namespace Procedure

variable {α β : Type}

/-- Goes on with a value, or fails where there is none. -/
def attempt : Except SessionError α → Procedure α
  | .ok a => pure a
  | .error e => throw e

/-- The device whose console is open. -/
def opened : Procedure Device := do
  attempt (← get).active

/-- Takes the whole scrollback of the open console as shown. -/
def markShown : Procedure Unit := do
  let d ← opened
  modify fun s => s.markShown d

/-- Opens the console of another device. -/
def select (id : DeviceId) : Procedure Device := do
  let d ← attempt (((← get).lab.device? id).mapError .lab)
  modify fun s => { s with activeId := d.id }
  opened

/-- Shows what has not been shown yet of the open console. -/
def unread : Procedure (List String) := do
  let d ← opened
  let shown := (← get).shownOf (← get).activeId
  markShown
  return d.history.drop shown

/-- Sends a line to the open console and shows what it prints behind the echo of the line. -/
def submit (line : String) : Procedure (List String) := do
  let before ← opened
  let s ← get
  let l ← attempt ((s.lab.execute s.activeId line).mapError .lab)
  set { s with lab := l }
  let after ← opened
  markShown
  return after.history.drop (before.history.length + (Text.lines before.prompt).length)

/-- Applies an edit to the device of the open console and shows the line about it. -/
def applyEdit (e : GuiEdit) : Procedure String := do
  let s ← get
  let l ← attempt ((s.lab.applyEdit s.activeId e).mapError .lab)
  set { s with lab := l }
  let after ← opened
  markShown
  return after.history.getLast?.getD ""

/-- Starts the lab again as it is in the catalog, and goes back to the device whose console was
    open, if there is one. -/
def restart : Procedure Unit := do
  let s ← get
  let l ← attempt ((Catalog.lab s.lab.id).mapError .lab)
  set (← attempt (ofLab l s.settings))
  if (← get).lab.devices.contains s.activeId then
    modify fun fresh => { fresh with activeId := s.activeId }

theorem run_attempt_ok (a : α) (s : Session) : (attempt (.ok a)).run s = .ok a s := rfl

theorem run_attempt_error (e : SessionError) (s : Session) :
    (attempt (.error e) : Procedure α).run s = .error e s := rfl

/-- What the lab answers is the answer. -/
theorem run_attempt_lab_ok {x : Except LabError α} {a : α} (h : x = .ok a) (s : Session) :
    (attempt (x.mapError .lab)).run s = .ok a s := by
  rw [h]
  rfl

theorem run_attempt_lab_error {x : Except LabError α} {e : LabError} (h : x = .error e)
    (s : Session) : (attempt (x.mapError .lab)).run s = .error (.lab e) s := by
  rw [h]
  rfl

theorem run_bind_of_ok {p : Procedure α} {s s' : Session} {a : α} (h : p.run s = .ok a s')
    (f : α → Procedure β) : (p >>= f).run s = (f a).run s' := by
  rw [EStateM.run] at h
  simp only [EStateM.run, bind, EStateM.bind, h]

theorem run_bind_of_error {p : Procedure α} {s s' : Session} {e : SessionError}
    (h : p.run s = .error e s') (f : α → Procedure β) : (p >>= f).run s = .error e s' := by
  rw [EStateM.run] at h
  simp only [EStateM.run, bind, EStateM.bind, h]

theorem run_get_bind (f : Session → Procedure β) (s : Session) :
    (get >>= f).run s = (f s).run s := rfl

theorem run_set_bind (s' : Session) (f : PUnit → Procedure β) (s : Session) :
    (set s' >>= f).run s = (f ⟨⟩).run s' := rfl

theorem run_modify_bind (g : Session → Session) (f : PUnit → Procedure β) (s : Session) :
    (modify g >>= f).run s = (f ⟨⟩).run (g s) := rfl

/-- The procedure without its result. -/
def quietly (p : Procedure α) : Procedure Unit := do
  let _ ← p
  return ()

theorem run_quietly_of_ok {p : Procedure α} {s s' : Session} {a : α} (h : p.run s = .ok a s') :
    (quietly p).run s = .ok () s' := by
  rw [quietly, run_bind_of_ok h]
  rfl

theorem run_quietly_of_error {p : Procedure α} {s s' : Session} {e : SessionError}
    (h : p.run s = .error e s') : (quietly p).run s = .error e s' := by
  rw [quietly, run_bind_of_error h]

/-- Asks something of the session, which stays as it is. -/
def ask (x : Session → Except SessionError α) : Procedure α := do
  attempt (x (← get))

theorem run_ask_of_ok {x : Session → Except SessionError α} {s : Session} {a : α}
    (h : x s = .ok a) : (ask x).run s = .ok a s := by
  rw [ask, run_get_bind, h, run_attempt_ok]

theorem run_ask_of_error {x : Session → Except SessionError α} {s : Session} {e : SessionError}
    (h : x s = .error e) : (ask x).run s = .error e s := by
  rw [ask, run_get_bind, h, run_attempt_error]

variable {s : Session} {d : Device}

theorem run_opened (hd : s.lab.devices.find? s.activeId = some d) :
    opened.run s = .ok d s := by
  rw [opened, run_get_bind, active_of_some hd, run_attempt_ok]

theorem run_markShown (hd : s.lab.devices.find? s.activeId = some d) :
    markShown.run s = .ok ⟨⟩ (s.markShown d) := by
  rw [markShown, run_bind_of_ok (run_opened hd)]
  rfl

theorem run_unread (hd : s.lab.devices.find? s.activeId = some d) :
    unread.run s = .ok (d.history.drop (s.shownOf s.activeId)) (s.markShown d) := by
  rw [unread, run_bind_of_ok (run_opened hd), run_get_bind, run_get_bind,
    run_bind_of_ok (run_markShown hd)]
  rfl

theorem run_select_of_some (hk : s.lab.devices.Keyed) {id : DeviceId}
    (hd : s.lab.devices.find? id = some d) :
    (select id).run s = .ok d { s with activeId := id } := by
  have hlookup : s.lab.device? id = .ok d := by rw [Lab.device?, hd]
  rw [select, run_get_bind, run_bind_of_ok (run_attempt_lab_ok hlookup s), run_modify_bind,
    hk id d hd]
  exact run_opened (s := { s with activeId := id }) hd

theorem run_select_of_none {id : DeviceId} (hd : s.lab.devices.find? id = none) :
    (select id).run s = .error (.lab (.deviceNotFound id)) s := by
  have hlookup : s.lab.device? id = .error (.deviceNotFound id) := by rw [Lab.device?, hd]
  rw [select, run_get_bind, run_bind_of_error (run_attempt_lab_error hlookup s)]

theorem run_submit (hk : s.lab.devices.Keyed) (hd : s.lab.devices.find? s.activeId = some d)
    (line : String) :
    (submit line).run s = .ok ((d.interpret s.lab.devices line).history.drop
        (d.history.length + (Text.lines d.prompt).length))
      (s.replaced (d.interpret s.lab.devices line)) := by
  have hafter := find?_activeId_insert s (d.interpret s.lab.devices line)
  rw [submit, run_bind_of_ok (run_opened hd), run_get_bind, execute_of_some hk hd,
    run_bind_of_ok (run_attempt_ok _ s), run_set_bind, run_bind_of_ok (run_opened hafter),
    run_bind_of_ok (run_markShown hafter)]
  rfl

theorem run_applyEdit (hk : s.lab.devices.Keyed)
    (hd : s.lab.devices.find? s.activeId = some d) (e : GuiEdit) :
    (applyEdit e).run s = .ok ((d.applyEdit e).history.getLast?.getD "")
      (s.replaced (d.applyEdit e)) := by
  have hafter := find?_activeId_insert s (d.applyEdit e)
  rw [applyEdit, run_get_bind, labEdit_of_some hk hd, run_bind_of_ok (run_attempt_ok _ s),
    run_set_bind, run_bind_of_ok (run_opened hafter), run_bind_of_ok (run_markShown hafter)]
  rfl

theorem run_restart_of_ok {l : Lab} {fresh : Session} (hl : Catalog.lab s.lab.id = .ok l)
    (hfresh : ofLab l s.settings = .ok fresh) :
    restart.run s = .ok () { fresh with
      activeId :=
        if fresh.lab.devices.contains s.activeId then s.activeId else fresh.activeId } := by
  rw [restart, run_get_bind, run_bind_of_ok (run_attempt_lab_ok hl s), hfresh,
    run_bind_of_ok (run_attempt_ok fresh s), run_set_bind, run_get_bind]
  split <;> rfl

theorem run_restart_of_error {e : LabError} (hl : Catalog.lab s.lab.id = .error e) :
    restart.run s = .error (.lab e) s := by
  rw [restart, run_get_bind, run_bind_of_error (run_attempt_lab_error hl s)]

end Procedure

/-! ## Calls -/

/-- A call of an operation of a session. -/
inductive Call
  | select (id : DeviceId)
  | submit (line : String)
  | applyEdit (e : GuiEdit)
  | unread
  | complete (line : String)
  | neighbors (table : NeighborTable)
  | simulate (protocol : Protocol) (destination : Option DeviceId)
  | restart
deriving DecidableEq

namespace Call

/-- The call in its steps, without its answer. -/
def procedure : Call → Procedure Unit
  | select id => (Procedure.select id).quietly
  | submit line => (Procedure.submit line).quietly
  | applyEdit e => (Procedure.applyEdit e).quietly
  | unread => Procedure.unread.quietly
  | complete line => (Procedure.ask (·.complete line)).quietly
  | neighbors table => (Procedure.ask (·.neighbors table)).quietly
  | simulate protocol destination => (Procedure.ask (·.simulate protocol destination)).quietly
  | restart => Procedure.restart

/-- What the call makes of a session, as a function. -/
def result (s : Session) : Call → Except SessionError Session
  | select id => s.select id
  | submit line => (s.submit line).map Prod.fst
  | applyEdit e => (s.applyEdit e).map Prod.fst
  | unread => s.unread.map Prod.fst
  | complete line => (s.complete line).map fun _ => s
  | neighbors table => (s.neighbors table).map fun _ => s
  | simulate protocol destination => (s.simulate protocol destination).map fun _ => s
  | restart => s.restart

/-- Why the call is refused, if it is. -/
def refusal? (s : Session) : Call → Option SessionError
  | select id =>
    if s.lab.devices.contains id then none else some (.lab (.deviceNotFound id))
  | simulate _ (some destination) =>
    if destination ≠ s.activeId ∧ destination ∈ s.lab.path then none
    else some (.lab (.deviceNotFound destination))
  | restart => if s.lab.id ∈ Catalog.ids then none else some (.lab (.labNotFound s.lab.id))
  | _ => none

end Call

/-! ## Sound sessions -/

/-- The lab is sound, and the console that is open is that of one of its devices. -/
structure Sound (s : Session) : Prop where
  lab : s.lab.Sound
  opened : ∃ d, s.lab.devices.find? s.activeId = some d

variable {s : Session}

theorem sound_ofLab {l : Lab} (hl : l.Sound) {settings : ConsoleSettings}
    (h : ofLab l settings = .ok s) : s.Sound := by
  obtain ⟨hlab, hfirst, _⟩ := of_ofLab h
  exact ⟨hlab ▸ hl, hlab ▸ firstDevice?_known hl.routed hfirst⟩

theorem settings_ofLab {l : Lab} {settings : ConsoleSettings} (h : ofLab l settings = .ok s) :
    s.settings = settings := by
  unfold ofLab at h
  split at h
  next => cases h
  next =>
    cases h
    rfl

/-- Another device with the same id may take the place of the one whose console is open. -/
theorem Sound.replaced (h : s.Sound) {d d' : Device}
    (hd : s.lab.devices.find? s.activeId = some d) (hid : d'.id = d.id) : (s.replaced d').Sound :=
  ⟨h.lab.insert hd hid, d', find?_activeId_insert s d'⟩

/-! ## The catalog -/

/-- Every definition of the catalog makes a lab with a console to open first. -/
theorem catalog_opens : ∀ definition ∈ Catalog.definitions,
    (Lab.ofDefinition definition).toOption.any (fun l => l.firstDevice?.isSome) = true := by
  decide

theorem start_of_mem {id : String} (h : id ∈ Catalog.ids) (settings : ConsoleSettings) :
    ∃ l fresh, Catalog.lab id = .ok l ∧ ofLab l settings = .ok fresh ∧ l.Sound := by
  obtain ⟨definition, hmem, hid⟩ := List.mem_map.mp h
  obtain ⟨found, hfound⟩ : ∃ found, Catalog.definitions.find? (fun d => d.id == id) = some found :=
    Option.isSome_iff_exists.mp (List.find?_isSome.mpr ⟨definition, hmem, by simpa using hid⟩)
  obtain ⟨l, hl, hopens⟩ :=
    exists_of_any_toOption (catalog_opens found (List.mem_of_find?_eq_some hfound))
  obtain ⟨activeId, hactive⟩ := Option.isSome_iff_exists.mp hopens
  have hlab : Catalog.lab id = .ok l := by
    rw [Catalog.lab, hfound]
    exact hl
  have hfresh : ∃ fresh, ofLab l settings = .ok fresh := by
    rw [ofLab, hactive]
    exact ⟨_, rfl⟩
  obtain ⟨fresh, hfresh⟩ := hfresh
  exact ⟨l, fresh, hlab, hfresh, Lab.sound_ofDefinition hl⟩

theorem lab_of_not_mem {id : String} (h : id ∉ Catalog.ids) :
    Catalog.lab id = .error (.labNotFound id) := by
  have hnone : Catalog.definitions.find? (fun d => d.id == id) = none := by
    refine List.find?_eq_none.mpr fun definition hmem hid => h ?_
    exact List.mem_map.mpr ⟨definition, hmem, by simpa using hid⟩
  rw [Catalog.lab, hnone]

/-! ## Every call -/

theorem active_of_sound (h : s.Sound) : ∃ d, s.active = .ok d ∧ d.id = s.activeId ∧
    s.lab.devices.find? s.activeId = some d := by
  obtain ⟨d, hd⟩ := h.opened
  exact ⟨d, active_of_some hd, h.lab.keyed _ d hd, hd⟩

/-- A restart in the catalog gives a new session, with the open console kept if it is still
    there. -/
theorem restart_of_mem (h : s.lab.id ∈ Catalog.ids) : ∃ fresh,
    start s.lab.id s.settings = .ok fresh ∧ fresh.settings = s.settings ∧
    let restarted : Session := { fresh with
      activeId := if fresh.lab.devices.contains s.activeId then s.activeId else fresh.activeId }
    Procedure.restart.run s = .ok () restarted ∧ s.restart = .ok restarted ∧ restarted.Sound := by
  obtain ⟨l, fresh, hl, hfresh, hsound⟩ := start_of_mem h s.settings
  have hstart : start s.lab.id s.settings = .ok fresh := by
    rw [start, hl]
    exact hfresh
  have hopen : fresh.Sound := sound_ofLab hsound hfresh
  refine ⟨fresh, hstart, settings_ofLab hfresh, Procedure.run_restart_of_ok hl hfresh, ?_,
    hopen.lab, ?_⟩
  · simp only [restart, hstart, bind, Except.bind]
    split <;> rfl
  · dsimp only
    split
    next hthere => exact Option.isSome_iff_exists.mp hthere
    next => exact hopen.opened

theorem simulate_of_sound (h : s.Sound) (protocol : Protocol) (destination : Option DeviceId)
    (hdestination : (Call.simulate protocol destination).refusal? s = none) :
    ∃ playback, s.simulate protocol destination = .ok playback := by
  obtain ⟨d, hd⟩ := h.opened
  obtain ⟨steps, hsteps⟩ := Lab.pathFrom_ok h.lab.routed hd destination protocol
  cases destination with
  | none =>
    simp only [simulate, Lab.simulate, hsteps]
    exact ⟨_, rfl⟩
  | some destination =>
    rw [Call.refusal?] at hdestination
    split at hdestination
    next hgood =>
      simp only [simulate, Lab.simulateTo_eq, if_pos hgood, hsteps]
      exact ⟨_, rfl⟩
    next => cases hdestination

/-- A call that is refused fails, and has overwritten nothing. -/
theorem run_of_refused {c : Call} {e : SessionError} (hc : c.refusal? s = some e) :
    c.procedure.run s = .error e s ∧ c.result s = .error e := by
  cases c with
  | select id =>
    rw [Call.refusal?] at hc
    split at hc
    next => cases hc
    next hmissing =>
      cases hc
      have hnone := SortedMap.contains_eq_false_iff.mp (Bool.eq_false_iff.mpr hmissing)
      exact ⟨Procedure.run_quietly_of_error (Procedure.run_select_of_none hnone),
        select_of_none hnone⟩
  | simulate protocol destination =>
    cases destination with
    | none => cases hc
    | some destination =>
      rw [Call.refusal?] at hc
      split at hc
      next => cases hc
      next hbad =>
        cases hc
        have hfails : s.simulate protocol (some destination) =
            .error (.lab (.deviceNotFound destination)) := by
          simp only [simulate, Lab.simulateTo_eq, if_neg hbad]
          rfl
        refine ⟨Procedure.run_quietly_of_error (Procedure.run_ask_of_error hfails), ?_⟩
        rw [Call.result, hfails]
        rfl
  | restart =>
    rw [Call.refusal?] at hc
    split at hc
    next => cases hc
    next hmissing =>
      cases hc
      have hl := lab_of_not_mem hmissing
      refine ⟨Procedure.run_restart_of_error hl, ?_⟩
      simp only [Call.result, restart, start, hl, bind, Except.bind]
      rfl
  | submit | applyEdit | unread | complete | neighbors => cases hc

/-- A call that is not refused is carried out, and leaves the session sound. -/
theorem run_of_taken (h : s.Sound) {c : Call} (hc : c.refusal? s = none) :
    ∃ s', c.procedure.run s = .ok () s' ∧ c.result s = .ok s' ∧ s'.Sound ∧
      s'.settings = s.settings := by
  obtain ⟨d, hd⟩ := h.opened
  cases c with
  | select id =>
    rw [Call.refusal?] at hc
    split at hc
    next hthere =>
      obtain ⟨other, hother⟩ := Option.isSome_iff_exists.mp hthere
      exact ⟨_, Procedure.run_quietly_of_ok (Procedure.run_select_of_some h.lab.keyed hother),
        select_of_some h.lab.keyed hother, ⟨h.lab, other, hother⟩, rfl⟩
    next => cases hc
  | submit line =>
    refine ⟨_, Procedure.run_quietly_of_ok (Procedure.run_submit h.lab.keyed hd line), ?_,
      h.replaced hd (Action.id_apply s.lab.devices (.line line) d), rfl⟩
    rw [Call.result, submit_of_some h.lab.keyed hd]
    rfl
  | applyEdit e =>
    refine ⟨_, Procedure.run_quietly_of_ok (Procedure.run_applyEdit h.lab.keyed hd e), ?_,
      h.replaced hd (Action.id_apply s.lab.devices (.edit e) d), rfl⟩
    rw [Call.result, applyEdit_of_some h.lab.keyed hd]
    rfl
  | unread =>
    refine ⟨_, Procedure.run_quietly_of_ok (Procedure.run_unread hd), ?_, ⟨h.lab, d, hd⟩, rfl⟩
    rw [Call.result, unread, active_of_some hd]
    rfl
  | complete line =>
    have hanswer : ∃ answer, s.complete line = .ok answer := by
      rw [complete, Lab.complete, Lab.device?, hd]
      exact ⟨_, rfl⟩
    obtain ⟨answer, hanswer⟩ := hanswer
    refine ⟨s, Procedure.run_quietly_of_ok (Procedure.run_ask_of_ok hanswer), ?_, h, rfl⟩
    rw [Call.result, hanswer]
    rfl
  | neighbors table =>
    have hanswer : ∃ answer, s.neighbors table = .ok answer := by
      rw [neighbors, Lab.neighbors, Lab.device?, hd]
      exact ⟨_, rfl⟩
    obtain ⟨answer, hanswer⟩ := hanswer
    refine ⟨s, Procedure.run_quietly_of_ok (Procedure.run_ask_of_ok hanswer), ?_, h, rfl⟩
    rw [Call.result, hanswer]
    rfl
  | simulate protocol destination =>
    obtain ⟨playback, hplayback⟩ := simulate_of_sound h protocol destination hc
    refine ⟨s, Procedure.run_quietly_of_ok (Procedure.run_ask_of_ok hplayback), ?_, h, rfl⟩
    rw [Call.result, hplayback]
    rfl
  | restart =>
    rw [Call.refusal?] at hc
    split at hc
    next hmem =>
      obtain ⟨fresh, _, hsettings, hrun, hresult, hsound⟩ := restart_of_mem hmem
      exact ⟨_, hrun, hresult, hsound, hsettings⟩
    next => cases hc

/-! ## Runs -/

/-- The session after a call, whether or not it fails. -/
def after (s : Session) (c : Call) : Session :=
  match c.procedure.run s with
  | .ok _ s' => s'
  | .error _ s' => s'

/-- Why a call fails, if it does. -/
def failure? (s : Session) (c : Call) : Option SessionError :=
  match c.procedure.run s with
  | .ok _ _ => none
  | .error e _ => some e

/-- The session after calls in their order. -/
def afterAll (s : Session) (calls : List Call) : Session := calls.foldl after s

theorem failure?_eq (h : s.Sound) (c : Call) : s.failure? c = c.refusal? s := by
  unfold failure?
  cases hc : c.refusal? s with
  | some e => rw [(run_of_refused hc).1]
  | none =>
    obtain ⟨s', hrun, _⟩ := run_of_taken h hc
    rw [hrun]

/-- In a sound session an operation in its steps gives what it gives as a function. If it fails, the
    session is as before. -/
theorem run_eq_result (h : s.Sound) (c : Call) : c.procedure.run s =
    match c.result s with
    | .ok s' => .ok () s'
    | .error e => .error e s := by
  cases hc : c.refusal? s with
  | some e =>
    obtain ⟨hrun, hresult⟩ := run_of_refused hc
    rw [hrun, hresult]
  | none =>
    obtain ⟨s', hrun, hresult, _⟩ := run_of_taken h hc
    rw [hrun, hresult]

theorem after_of_refused {c : Call} (hc : c.refusal? s ≠ none) : s.after c = s := by
  obtain ⟨e, he⟩ := Option.ne_none_iff_exists'.mp hc
  rw [after, (run_of_refused he).1]

/-- A session stays sound, and keeps its settings, whatever is called. -/
theorem sound_after (h : s.Sound) (c : Call) :
    (s.after c).Sound ∧ (s.after c).settings = s.settings := by
  cases hc : c.refusal? s with
  | some e =>
    rw [after, (run_of_refused hc).1]
    exact ⟨h, rfl⟩
  | none =>
    obtain ⟨s', hrun, _, hsound, hsettings⟩ := run_of_taken h hc
    rw [after, hrun]
    exact ⟨hsound, hsettings⟩

theorem sound_afterAll (h : s.Sound) (calls : List Call) :
    (s.afterAll calls).Sound ∧ (s.afterAll calls).settings = s.settings := by
  induction calls generalizing s with
  | nil => exact ⟨h, rfl⟩
  | cons c rest ih =>
    obtain ⟨hsound, hsettings⟩ := sound_after h c
    obtain ⟨hrest, hkept⟩ := ih hsound
    exact ⟨hrest, hkept.trans hsettings⟩

/-- **Sessions are safe.** Start a session on a lab that comes from a definition, and call any
    operations, which may fail or not. Then
    * the settings are those of the start, and the console that is open is that of a device of the
      lab, under the id of which it stands;
    * a call in its steps does what it does as a function, and if it fails, then before any part of
      the session is overwritten;
    * a call fails exactly if it is to open the console of an unknown device, to send a packet to
      the open console or to what the topology does not name, or to restart a lab that is not in the
      catalog, and for that reason; then the session is as before;
    * a restart of a lab of the catalog gives a new session on it with the same settings, but for
      the console, which is kept if the new lab has a device for it. -/
theorem session_safety {l : Lab} (hl : l.Obtained) {settings : ConsoleSettings} {s : Session}
    (hs : ofLab l settings = .ok s) (calls : List Call) :
    let r := s.afterAll calls
    r.settings = settings ∧
    (∃ d, r.active = .ok d ∧ d.id = r.activeId ∧ r.lab.devices.find? r.activeId = some d) ∧
    (∀ c : Call, c.procedure.run r =
      match c.result r with
      | .ok r' => .ok () r'
      | .error e => .error e r) ∧
    (∀ c, r.failure? c = c.refusal? r) ∧
    (∀ c : Call, c.refusal? r ≠ none → r.after c = r) ∧
    (r.lab.id ∈ Catalog.ids → ∃ fresh, start r.lab.id r.settings = .ok fresh ∧
      r.after .restart = { fresh with
        activeId := if fresh.lab.devices.contains r.activeId then r.activeId
          else fresh.activeId }) := by
  intro r
  obtain ⟨hr, hsettings⟩ := sound_afterAll (sound_ofLab hl.sound hs) calls
  refine ⟨hsettings.trans (settings_ofLab hs), active_of_sound hr, run_eq_result hr,
    failure?_eq hr, fun c => after_of_refused, fun hmem => ?_⟩
  obtain ⟨fresh, hstart, _, hrun, _⟩ := restart_of_mem hmem
  refine ⟨fresh, hstart, ?_⟩
  rw [after, Call.procedure, hrun]

/-- The lab has its id from the catalog, but other devices. Its switch is in the catalog as well, so
    a restart stays there; its firewall is not, so a restart goes to the first console of the new
    lab. In between a line was sent, and an unknown console and the own one were asked for. -/
theorem session_safety_replaced :
    let definition : LabDefinition :=
      { id := "lab-instance-c", title := "", description := "", difficulty := .beginner
        vendor := ""
        devices :=
          [{ id := "fw", name := "fw", kind := .firewall, vendor := .fortinet },
            { id := "dev-sw", name := "sw", kind := .switch, vendor := .cisco }]
        topology :=
          [{ deviceId := "dev-sw", label := "", icon := .switch
             x := .integer 0, y := .integer 0 },
            { deviceId := "fw", label := "", icon := .firewall
              x := .integer 1, y := .integer 0 }] }
    let calls : List Call := [.select "dev-sw", .submit "enable", .select "nowhere"]
    ∃ l s, Lab.ofDefinition definition = .ok l ∧ ofLab l {} = .ok s ∧ s.activeId = "fw" ∧
      (s.afterAll calls).failure? (.simulate .http (some "dev-sw")) =
        some (.lab (.deviceNotFound "dev-sw")) ∧
      ((s.afterAll calls).after .restart).activeId = "dev-sw" ∧
      ((s.afterAll []).after .restart).activeId = "dev-fw" := by
  intro definition calls
  have hdecided : (Lab.ofDefinition definition).toOption.any (fun l =>
      (ofLab l {}).toOption.any fun s => decide (s.activeId = "fw" ∧ s.lab.id ∈ Catalog.ids ∧
        s.lab.id = "lab-instance-c" ∧ (s.afterAll calls).activeId = "dev-sw" ∧
        (s.afterAll calls).lab.id = "lab-instance-c")) = true := by
    decide
  have hcatalog : (start "lab-instance-c" {}).toOption.any (fun fresh =>
      decide (fresh.activeId = "dev-fw" ∧ fresh.lab.devices.contains "dev-sw" = true ∧
        fresh.lab.devices.contains "fw" = false)) = true := by
    decide
  obtain ⟨l, hl, hopened⟩ := exists_of_any_toOption hdecided
  obtain ⟨s, hs, hmet⟩ := exists_of_any_toOption hopened
  obtain ⟨hfirst, hmem, hid, hactive, hid'⟩ := of_decide_eq_true hmet
  obtain ⟨fresh, hfresh, hthere⟩ := exists_of_any_toOption hcatalog
  obtain ⟨hfw, hsw, hnone⟩ := of_decide_eq_true hthere
  refine ⟨l, s, hl, hs, hfirst, ?_, ?_, ?_⟩
  · obtain ⟨_, _, _, hfails, _⟩ := session_safety (.made hl) hs calls
    rw [hfails, Call.refusal?, hactive]
    rfl
  · obtain ⟨hsettings, _, _, _, _, hrestart⟩ := session_safety (.made hl) hs calls
    obtain ⟨fresh', hstart, hafter⟩ := hrestart (by rw [hid', ← hid]; exact hmem)
    rw [hid', hsettings, hfresh] at hstart
    cases hstart
    rw [hafter, hactive, hsw]
    rfl
  · obtain ⟨hsettings, _, _, _, _, hrestart⟩ := session_safety (.made hl) hs []
    obtain ⟨fresh', hstart, hafter⟩ := hrestart hmem
    have hsame : s.afterAll [] = s := rfl
    rw [hsame] at hsettings hstart hafter
    rw [hid, hsettings, hfresh] at hstart
    cases hstart
    rw [hsame, hafter, hfirst, hnone]
    exact hfw

end Session

end TrainingLab
