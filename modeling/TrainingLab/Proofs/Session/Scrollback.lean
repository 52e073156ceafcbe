import TrainingLab.Proofs.Device.Printing
import TrainingLab.Proofs.Dialect.Rejection
import TrainingLab.Proofs.Lab.Isolation
import TrainingLab.Session.MetaCommand

/-
  What the operations of a session do to a scrollback. A line adds its echo and then the answer;
  the echo takes as many lines as the prompt, for the prompt ends inside a line. An edit that was
  typed adds one line, for it is made of words.

  Proved:
  * `history_interpret`, `length_echoLines`: the echo and the answer to a line.
  * `history_applyEdit`, `oneLine_of_read`: the line about an edit.
  * `submit_of_some`, `applyEdit_of_some`, `unread_of_some`, `select_of_some`: what the operations
    give in a session whose console is that of a device of its lab.
-/

namespace TrainingLab

open Grammar

/-! ## Lines on a console -/

namespace Device

/-- The lines of the scrollback that repeat a line: behind the prompt, or the prompt alone if the
    line is blank. -/
def echoLines (d : Device) (line : String) : List String :=
  if Text.trim line = "" then Text.lines d.prompt
  else Text.lines (d.prompt ++ " " ++ Text.trim line)

/-- A prompt ends inside a line. -/
theorem getLast?_prompt (d : Device) : ∃ c, d.prompt.toList.getLast? = some c ∧ c ≠ '\n' := by
  have hgreater : ∀ s : String, (s ++ ">").toList.getLast? = some '>' :=
    fun _ => Text.getLast?_append rfl
  have hhash : ∀ s : String, (s ++ "#").toList.getLast? = some '#' :=
    fun _ => Text.getLast?_append rfl
  unfold prompt
  split
  next =>
    cases d.mode
    case user => exact ⟨'>', hgreater _, by decide⟩
    case edit => exact ⟨'>', hgreater _, by decide⟩
    all_goals exact ⟨'#', Text.getLast?_append rfl, by decide⟩
  next =>
    split
    · exact ⟨'#', hhash _, by decide⟩
    · exact ⟨'>', hgreater _, by decide⟩
  next =>
    split
    · exact ⟨'#', hhash _, by decide⟩
    · exact ⟨'>', hgreater _, by decide⟩
  next =>
    split
    · exact ⟨'#', Text.getLast?_append rfl, by decide⟩
    · exact ⟨'#', Text.getLast?_append rfl, by decide⟩
  next => exact ⟨'>', hgreater _, by decide⟩

theorem prompt_ne_empty (d : Device) : d.prompt ≠ "" := by
  intro h
  obtain ⟨c, hc, _⟩ := d.getLast?_prompt
  rw [h] at hc
  cases hc

theorem length_echoLines (d : Device) {line : String} (h : '\n' ∉ (Text.trim line).toList) :
    (d.echoLines line).length = (Text.lines d.prompt).length := by
  unfold echoLines
  split
  next => rfl
  next =>
    obtain ⟨c, hlast, hc⟩ := d.getLast?_prompt
    rw [String.append_assoc]
    refine Text.length_lines_append hlast hc ?_
    rw [String.toList_append, List.mem_append, not_or]
    exact ⟨by decide, h⟩

theorem history_echoed (d : Device) (line : String) :
    (d.echoed line).history = d.history ++ d.echoLines line := by
  have hlines : ∀ {text : String}, text ≠ "" → logLines text = Text.lines text := by
    intro text htext
    rw [logLines, if_neg (by simpa using htext)]
  unfold echoed echoLines
  split
  next => rw [log, hlines d.prompt_ne_empty]
  next =>
    have hne : d.prompt ++ " " ++ Text.trim line ≠ "" := by
      simp [d.prompt_ne_empty]
    rw [Dialect.echo, log, hlines hne]

end Device

/-- A line adds its echo to the scrollback, and then an answer, unless it is blank. -/
theorem Dialect.history_interpret {κ : Type} {l : Dialect κ} {rejection : String → Prop}
    (h : l.AtomicCommands rejection) (hcarries : l.CarriesSafely) (help : List String)
    (devices : Inventory) (line : String) (d : Device) :
    ∃ answer, (l.interpret help devices line d).history =
        d.history ++ d.echoLines line ++ answer ∧ (Text.trim line = "" → answer = []) := by
  obtain ⟨answer, hanswer, _⟩ := atomic_interpret h hcarries help devices line d
  rw [d.history_echoed] at hanswer
  refine ⟨answer, hanswer, fun hblank => ?_⟩
  have hprompt : (l.interpret help devices line d).history = (d.echoed line).history := by
    simp [interpret, Device.echoed, hblank]
  rw [hprompt, d.history_echoed] at hanswer
  exact List.self_eq_append_right.mp hanswer

namespace Device

theorem history_interpret (d : Device) (devices : Inventory) (line : String) :
    ∃ answer, (d.interpret devices line).history =
        d.history ++ d.echoLines line ++ answer ∧ (Text.trim line = "" → answer = []) := by
  unfold interpret
  cases d.family with
  | cisco => exact Dialect.history_interpret Ios.atomicCommands Ios.carriesSafely _ devices line d
  | juniper =>
    exact Dialect.history_interpret Junos.atomicCommands Junos.carriesSafely _ devices line d
  | fortinet =>
    exact Dialect.history_interpret FortiOs.atomicCommands FortiOs.carriesSafely _ devices line d
  | paloAlto =>
    exact Dialect.history_interpret PanOs.atomicCommands PanOs.carriesSafely _ devices line d
  | cloud =>
    exact Dialect.history_interpret Cloud.atomicCommands Cloud.carriesSafely _ devices line d

end Device

/-! ## Edits -/

/-- Nothing that the line about the change takes from it has a line feed. -/
def InterfaceEdit.OneLine : InterfaceEdit → Prop
  | ip address => '\n' ∉ address.toList
  | mask text => '\n' ∉ text.toList
  | zone name => ∀ z, name = some z → '\n' ∉ z.toList
  | _ => True

/-- Nothing that the line about the edit takes from it has a line feed. -/
def GuiEdit.OneLine : GuiEdit → Prop
  | interface name e => '\n' ∉ name.toList ∧ e.OneLine
  | commit => True

theorem InterfaceEdit.feed_not_mem_message {e : InterfaceEdit} (h : e.OneLine) {name : String}
    (hname : '\n' ∉ name.toList) (i : Interface) :
    '\n' ∉ (e.message name (e.apply i)).toList := by
  have hstate : ∀ up, '\n' ∉ (stateMessage name up).toList := by
    intro up
    refine Text.feed_not_mem_append
      (Text.feed_not_mem_append (Text.feed_not_mem_append (by decide) ?_) (by decide)) hname
    cases up <;> decide
  have hchanged : '\n' ∉ ("GUI: Changed " ++ name).toList :=
    Text.feed_not_mem_append (by decide) hname
  cases e with
  | ip address => exact Text.feed_not_mem_append (Text.feed_not_mem_append hchanged (by decide)) h
  | mask text => exact Text.feed_not_mem_append (Text.feed_not_mem_append hchanged (by decide)) h
  | up isUp => exact hstate isUp
  | toggle => exact hstate _
  | zone zone =>
    unfold message
    dsimp only
    split
    next z hz =>
      have hzone : zone = some z := (Option.filter_eq_some_iff.mp hz).1
      exact Text.feed_not_mem_append (Text.feed_not_mem_append
        (Text.feed_not_mem_append (by decide) hname) (by decide)) (h z hzone)
    next => exact Text.feed_not_mem_append (Text.feed_not_mem_append (by decide) hname) (by decide)
  | description text => exact Text.feed_not_mem_append hchanged (by decide)

namespace Device

theorem history_log_of_no_feed (d : Device) {text : String} (h : '\n' ∉ text.toList) :
    (d.log text).history = d.history ++ [text] := by
  rw [log, logLines_of_no_feed h]

/-- An edit adds one line to the scrollback. -/
theorem history_applyEdit (d : Device) {e : GuiEdit} (h : e.OneLine) :
    ∃ text, (d.applyEdit e).history = d.history ++ [text] := by
  cases e with
  | interface name e =>
    obtain ⟨hname, he⟩ := h
    simp only [applyEdit, applyInterfaceEdit]
    split
    next =>
      exact ⟨_, d.history_log_of_no_feed
        (Text.feed_not_mem_append (Text.feed_not_mem_append (by decide) hname) (by decide))⟩
    next i _ =>
      refine ⟨e.message name (e.apply i),
        (history_log_of_no_feed _ (e.feed_not_mem_message he hname i)).trans ?_⟩
      split <;> rfl
  | commit =>
    have hmessage : ∀ changed : Bool, '\n' ∉
        (if changed then "GUI: Commit Successful" else "GUI: No changes to commit").toList := by
      decide
    rw [← history_commit d]
    exact ⟨_, history_log_of_no_feed d.commit.1 (hmessage d.commit.2)⟩

end Device

/-! ## Typed edits -/

namespace MetaCommand

theorem oneLine_of_readEdit {words : List String} {e : GuiEdit}
    (hwords : ∀ w ∈ words, '\n' ∉ w.toList) (h : readEdit words = .ok e) : e.OneLine := by
  unfold readEdit at h
  split at h
  next name value => cases h; exact ⟨hwords name (by simp), hwords value (by simp)⟩
  next name value => cases h; exact ⟨hwords name (by simp), hwords value (by simp)⟩
  next name => cases h; exact ⟨hwords name (by simp), trivial⟩
  next name => cases h; exact ⟨hwords name (by simp), trivial⟩
  next name => cases h; exact ⟨hwords name (by simp), trivial⟩
  next name => cases h; exact ⟨hwords name (by simp), nofun⟩
  next name zone =>
    cases h
    refine ⟨hwords name (by simp), fun z hz => ?_⟩
    cases hz
    exact hwords zone (by simp)
  next name _ => cases h; exact ⟨hwords name (by simp), trivial⟩
  next name _ => cases h; exact ⟨hwords name (by simp), trivial⟩
  next => cases h; trivial
  next => cases h

theorem read_gui {line : String} {e : GuiEdit} (h : read line = .ok (.gui e)) :
    ∃ body words, Text.words body = "gui" :: words ∧ readEdit words = .ok e := by
  have hsimulation : ∀ protocol destination,
      readSimulation protocol destination ≠ .ok (.gui e) := by
    intro protocol destination hs
    unfold readSimulation at hs
    split at hs <;> cases hs
  unfold read at h
  dsimp only at h
  split at h
  case h_13 words hwords =>
    cases he : readEdit words with
    | ok e' =>
      rw [he] at h
      cases h
      exact ⟨_, words, hwords, he⟩
    | error _ =>
      rw [he] at h
      cases h
  all_goals first
    | cases h
    | exact absurd h (hsimulation _ _)
    | (split at h <;> cases h)

/-- A typed edit is made of words, so nothing in it has a line feed. -/
theorem oneLine_of_read {line : String} {e : GuiEdit} (h : read line = .ok (.gui e)) :
    e.OneLine := by
  obtain ⟨body, words, hwords, he⟩ := read_gui h
  refine oneLine_of_readEdit (fun w hw hfeed => ?_) he
  have hmem : w ∈ Text.words body := hwords ▸ List.mem_cons_of_mem _ hw
  exact absurd (Text.not_blank_of_mem_words hmem _ hfeed) (by decide)

end MetaCommand

/-! ## Operations of a session -/

namespace Session

/-- How many lines of the scrollback of a device have been shown. -/
def shownOf (s : Session) (id : DeviceId) : Nat := (s.shown.find? id).getD 0

/-- The session with another device at the open console, all of it shown. -/
def replaced (s : Session) (d : Device) : Session :=
  { s with
    lab := { s.lab with devices := s.lab.devices.insert s.activeId d }
    shown := s.shown.insert s.activeId d.history.length }

variable {s : Session} {d : Device}

theorem active_of_some (hd : s.lab.devices.find? s.activeId = some d) : s.active = .ok d := by
  rw [active, Lab.device?, hd]
  rfl

/-- Where the device of the open console has changed, the new one is found. -/
theorem find?_activeId_insert (s : Session) (d : Device) :
    (s.lab.devices.insert s.activeId d).find? s.activeId = some d := by
  rw [SortedMap.find?_insert, if_pos rfl]

theorem continueWith_insert (d : Device) :
    s.continueWith { s.lab with devices := s.lab.devices.insert s.activeId d } =
      .ok (s.replaced d, d) := by
  simp only [continueWith, active, Lab.device?, find?_activeId_insert]
  rfl

theorem execute_of_some (hk : s.lab.devices.Keyed) (hd : s.lab.devices.find? s.activeId = some d)
    (line : String) :
    (s.lab.execute s.activeId line).mapError SessionError.lab = .ok
      { s.lab with
        devices := s.lab.devices.insert s.activeId (d.interpret s.lab.devices line) } :=
  congrArg (Except.mapError SessionError.lab)
    (Lab.perform_of_some hk (o := ⟨s.activeId, .line line⟩) hd)

theorem labEdit_of_some (hk : s.lab.devices.Keyed)
    (hd : s.lab.devices.find? s.activeId = some d) (e : GuiEdit) :
    (s.lab.applyEdit s.activeId e).mapError SessionError.lab = .ok
      { s.lab with devices := s.lab.devices.insert s.activeId (d.applyEdit e) } :=
  congrArg (Except.mapError SessionError.lab)
    (Lab.perform_of_some hk (o := ⟨s.activeId, .edit e⟩) hd)

theorem submit_of_some (hk : s.lab.devices.Keyed) (hd : s.lab.devices.find? s.activeId = some d)
    (line : String) :
    s.submit line = .ok (s.replaced (d.interpret s.lab.devices line),
      (d.interpret s.lab.devices line).history.drop
        (d.history.length + (Text.lines d.prompt).length)) := by
  simp only [submit, active_of_some hd, execute_of_some hk hd, bind, Except.bind,
    continueWith_insert]
  rfl

/-- What a line shows is all that it adds to the scrollback behind its echo. -/
theorem submit_answer (hk : s.lab.devices.Keyed) (hd : s.lab.devices.find? s.activeId = some d)
    {line : String} (hline : '\n' ∉ (Text.trim line).toList) :
    ∃ answer, s.submit line = .ok (s.replaced (d.interpret s.lab.devices line), answer) ∧
      (d.interpret s.lab.devices line).history = d.history ++ d.echoLines line ++ answer ∧
      (Text.trim line = "" → answer = []) := by
  obtain ⟨answer, hanswer, hblank⟩ := d.history_interpret s.lab.devices line
  refine ⟨answer, ?_, hanswer, hblank⟩
  rw [submit_of_some hk hd, ← d.length_echoLines hline, ← List.length_append, hanswer,
    List.drop_left]

theorem applyEdit_of_some (hk : s.lab.devices.Keyed)
    (hd : s.lab.devices.find? s.activeId = some d) (e : GuiEdit) :
    s.applyEdit e = .ok (s.replaced (d.applyEdit e), (d.applyEdit e).history.getLast?.getD "") := by
  simp only [applyEdit, labEdit_of_some hk hd, bind, Except.bind, continueWith_insert]
  rfl

theorem unread_of_some (hd : s.lab.devices.find? s.activeId = some d) :
    s.unread = .ok (s.replaced d, d.history.drop (s.shownOf s.activeId)) := by
  have hsame : s.lab.devices.insert s.activeId d = s.lab.devices := by
    refine SortedMap.ext_find? fun id => ?_
    rw [SortedMap.find?_insert]
    split
    next heq => rw [heq, hd]
    next => rfl
  rw [unread, active_of_some hd, replaced, hsame]
  rfl

theorem select_of_some (hk : s.lab.devices.Keyed) {id : DeviceId}
    (hd : s.lab.devices.find? id = some d) : s.select id = .ok { s with activeId := id } := by
  rw [select, Lab.device?, hd, ← hk id d hd]
  rfl

theorem select_of_none {id : DeviceId} (hd : s.lab.devices.find? id = none) :
    s.select id = .error (.lab (.deviceNotFound id)) := by
  rw [select, Lab.device?, hd]
  rfl

end Session

end TrainingLab
