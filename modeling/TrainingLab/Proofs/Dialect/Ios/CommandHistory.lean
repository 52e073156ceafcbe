import TrainingLab.Proofs.Dialect.Ios.Inspection
import TrainingLab.Proofs.Dialect.Ios.PlainAnswers

/-
  The listing of the commands entered. A history mixes echoes and answers, and what is a command is
  read off the entries with the hostname that the device has at the end. On a device without marks
  no answer is taken for a command, so the listing is made of the lines entered. It has those of
  them whose prompt begins with the last hostname; lines from before it was changed are missing.

  Proved:
  * `recall_interpret`, `recall_enterLines`: what a line, and a run of lines, adds to the commands
    that can be recalled.
  * `asksHistory_of_words`, `history_of_asksHistory`: the lines that ask for the listing, and what
    they print.
  * `command_history`: the listing after any run, and when it is complete.
  * `rename_hides_commands`: the lines that are missing once the hostname is changed.
-/

namespace TrainingLab

open Grammar

namespace Device

/-! ## Lines entered -/

/-- A line without marks, entered among devices that show none. -/
structure Discreet (l : Inventory × String) : Prop where
  devices : l.1.Unmarked
  line : Text.Unmarked l.2
  oneLine : '\n' ∉ (Text.trim l.2).toList

/-- The lines that are not blank, trimmed, each with the device that it was entered on. -/
def entered (d : Device) : List (Inventory × String) → List (Device × String)
  | [] => []
  | (devices, line) :: rest =>
    (if Text.trim line = "" then [] else [(d, Text.trim line)]) ++
      (d.interpret devices line).entered rest

/-- Lines as they are listed. -/
def indented (typed : List (Device × String)) : List String := typed.map fun e => "  " ++ e.2

/-- The lines whose prompt begins with the hostname, or as that of a user. -/
def recognised (hostname : String) (typed : List (Device × String)) : List (Device × String) :=
  typed.filter fun e => recognises hostname e.1.prompt

theorem entered_append (d : Device) (lines more : List (Inventory × String)) :
    d.entered (lines ++ more) = d.entered lines ++ (d.enterLines lines).entered more := by
  induction lines generalizing d with
  | nil => rfl
  | cons l rest ih =>
    rw [List.cons_append, entered, entered, ih, List.append_assoc]
    rfl

theorem recognised_append (hostname : String) (typed more : List (Device × String)) :
    recognised hostname (typed ++ more) = recognised hostname typed ++ recognised hostname more :=
  List.filter_append typed more

theorem indented_append (typed more : List (Device × String)) :
    indented (typed ++ more) = indented typed ++ indented more := List.map_append

theorem family_of_mem_entered {d : Device} {lines : List (Inventory × String)} :
    ∀ e ∈ d.entered lines, e.1.family = d.family := by
  induction lines generalizing d with
  | nil => exact List.forall_mem_nil _
  | cons l rest ih =>
    have hafter : (d.interpret l.1 l.2).family = d.family := (Action.line l.2).family_apply l.1 d
    refine List.forall_mem_append.mpr ⟨fun e he => ?_, fun e he => (ih e he).trans hafter⟩
    split at he
    next => cases he
    next => rw [List.mem_singleton.mp he]

/-! ## What is kept -/

/-- Lines are recalled on the device: it speaks IOS, has no marks, and its history is made of single
    lines. -/
structure Recording (d : Device) : Prop where
  family : d.family = .cisco
  unmarked : d.Unmarked
  history : SingleLines d.history

variable {d : Device} {devices : Inventory} {line : String}

theorem Recording.interpret (h : Recording d) (hl : Discreet (devices, line)) :
    Recording (d.interpret devices line) := by
  refine ⟨((Action.line line).family_apply devices d).trans h.family,
    h.unmarked.interpret h.family hl.line devices, ?_⟩
  obtain ⟨answer, hanswer, hlines⟩ := d.singleLines_interpret devices line
  rw [hanswer]
  exact (h.history.append (d.singleLines_echoLines line)).append hlines

theorem Recording.enterLines (h : Recording d) {lines : List (Inventory × String)}
    (hlines : ∀ l ∈ lines, Discreet l) : Recording (d.enterLines lines) := by
  induction lines generalizing d with
  | nil => exact h
  | cons l rest ih =>
    obtain ⟨hl, hrest⟩ := List.forall_mem_cons.mp hlines
    exact ih (h.interpret hl) hrest

/-! ## What is recalled -/

theorem feed_not_mem_prompt (hfamily : d.family = .cisco) (hname : '\n' ∉ d.name.toList) :
    '\n' ∉ d.prompt.toList := by
  have hmark : ∀ mode, '\n' ∉ (iosMark mode).toList := by
    intro mode
    cases mode <;> decide
  rw [prompt, hfamily]
  exact Text.feed_not_mem_append hname (hmark d.mode)

theorem begins_name_prompt (hfamily : d.family = .cisco) :
    Text.begins d.name d.prompt = true := by
  rw [prompt, hfamily]
  exact Text.begins_append (List.isPrefixOf_iff_prefix.mpr (List.prefix_refl _)) (iosMark d.mode)

theorem singleLines_enteredCommands (h : SingleLines d.history) :
    SingleLines d.enteredCommands := by
  intro text htext
  rw [enteredCommands_eq] at htext
  obtain ⟨entry, hentry, hrecall⟩ := List.mem_filterMap.mp htext
  exact (indented_of_recalled? hrecall (h entry hentry)).2

/-- The echo of a line is one entry. -/
theorem Recording.echoLines_eq (h : Recording d) (hline : '\n' ∉ (Text.trim line).toList) :
    d.echoLines line =
      [if Text.trim line = "" then d.prompt else d.prompt ++ " " ++ Text.trim line] := by
  have hprompt := feed_not_mem_prompt h.family h.unmarked.name.oneLine
  have hwhole : ∀ text : String, '\n' ∉ (d.prompt ++ text).toList →
      Text.lines (d.prompt ++ text) = [d.prompt ++ text] := by
    intro text htext
    rw [Text.lines_of_no_feed htext, if_neg (by simp [d.prompt_ne_empty])]
  unfold echoLines
  split
  next =>
    have hsingle := hwhole "" (by simpa using hprompt)
    rwa [String.append_empty] at hsingle
  next =>
    rw [String.append_assoc]
    refine hwhole _ (Text.feed_not_mem_append hprompt ?_)
    exact Text.feed_not_mem_append (by decide) hline

/-- The echo of a line gives the line, unless this is blank or its prompt does not begin with the
    hostname. -/
theorem recall_echoed (h : Recording d) (hl : Discreet (devices, line)) {hostname : String}
    (hname : PlainHostname hostname) :
    (d.echoed line).history.filterMap (recalled? hostname) =
      d.history.filterMap (recalled? hostname) ++
        indented (recognised hostname (d.entered [(devices, line)])) := by
  have hprompt := isPrompt_prompt h.family h.unmarked.name.unmarked
  rw [history_echoed, List.filterMap_append, h.echoLines_eq hl.oneLine]
  refine congrArg (d.history.filterMap (recalled? hostname) ++ ·) ?_
  by_cases hblank : Text.trim line = ""
  · simp [entered, recognised, indented, hblank, recalled?_prompt hprompt]
  · have hecho := recalled?_echo hname.unmarked hprompt hblank
    by_cases hrecognises : recognises hostname d.prompt = true
    · simp [entered, recognised, indented, hblank, hecho, hrecognises]
    · simp [entered, recognised, indented, hblank, hecho, hrecognises]

/-- The answer to a line gives nothing. -/
theorem recall_interpret (h : Recording d) (hl : Discreet (devices, line)) {hostname : String}
    (hname : PlainHostname hostname) :
    (d.interpret devices line).history.filterMap (recalled? hostname) =
      d.history.filterMap (recalled? hostname) ++
        indented (recognised hostname (d.entered [(devices, line)])) := by
  obtain ⟨answer, hanswer, hplain⟩ :=
    Ios.history_interpret_plain h.unmarked h.family h.history hl.devices hl.line
  have hsilent : answer.filterMap (recalled? hostname) = [] := by
    rw [List.filterMap_eq_nil_iff]
    exact fun entry hentry => recalled?_of_plain hname (hplain entry hentry)
  rw [hanswer, ← history_echoed, List.filterMap_append, hsilent, List.append_nil,
    recall_echoed h hl hname]

/-- A run of lines adds its lines to what can be recalled. -/
theorem recall_enterLines (h : Recording d) {lines : List (Inventory × String)}
    (hlines : ∀ l ∈ lines, Discreet l) {hostname : String} (hname : PlainHostname hostname) :
    (d.enterLines lines).history.filterMap (recalled? hostname) =
      d.history.filterMap (recalled? hostname) ++
        indented (recognised hostname (d.entered lines)) := by
  induction lines generalizing d with
  | nil => exact (List.append_nil _).symm
  | cons l rest ih =>
    obtain ⟨hl, hrest⟩ := List.forall_mem_cons.mp hlines
    have hsplit : d.entered (l :: rest) =
        d.entered [l] ++ (d.interpret l.1 l.2).entered rest := d.entered_append [l] rest
    rw [hsplit, recognised_append, indented_append, ← List.append_assoc]
    exact (ih (h.interpret hl) hrest).trans (congrArg (· ++ _) (recall_interpret h hl hname))

end Device

/-! ## Asking for the listing -/

/-- A line that gets to the table is not blank. -/
theorem Dialect.trim_ne_of_verdict? {κ : Type} {l : Dialect κ} {line : String} {d : Device}
    {v : Verdict (Request κ)} (h : l.verdict? line d = some v) : Text.trim line ≠ "" := by
  intro hblank
  rw [verdict?, if_pos (Or.inl hblank)] at h
  cases h

namespace Ios

open Device

variable {d : Device} {line : String}

/-- The line asks for the commands entered, by itself or through a line that it carries. -/
def AsksHistory (d : Device) (line : String) : Prop :=
  (dialect.verdict? line d).bind dialect.commandOf? = some .showHistory

theorem trim_ne_of_asksHistory (h : AsksHistory d line) : Text.trim line ≠ "" := by
  obtain ⟨v, hv, _⟩ := Option.bind_eq_some_iff.mp h
  exact Dialect.trim_ne_of_verdict? hv

/-- The words to ask with: as they are in the exec modes, and behind `do` while configuring. -/
theorem asksHistory_of_words
    (h : d.mode ∈ execModes ∧ Text.words line = ["show", "history"] ∨
      d.mode ∈ configModes ∧ Text.words line = ["do", "show", "history"]) : AsksHistory d line := by
  have hexec : ∀ mode ∈ execModes,
      dispatch mode [] ["show", "history"] table = .done (.command .showHistory) := by
    decide
  rcases h with ⟨hmode, hwords⟩ | ⟨hmode, hwords⟩
  · have hdone : dispatch d.mode d.context ["show", "history"] table =
        .done (.command .showHistory) :=
      (dispatch_anywhere table_anywhere []).trans (hexec d.mode hmode)
    rw [AsksHistory, dialect.verdict?_of_words d hwords (by decide) (by decide), Option.bind_some]
    exact congrArg dialect.commandOf? hdone
  · have hdone : dispatch d.mode d.context ["do", "show", "history"] table =
        .done (.carried (Text.joinWith " " ["show", "history"])) :=
      dispatch_do hmode d.context (by decide)
    rw [AsksHistory, dialect.verdict?_of_words d hwords (by decide) (by decide), Option.bind_some]
    refine (congrArg dialect.commandOf? hdone).trans ?_
    have hcarried : dispatch dialect.carriedMode [] ["show", "history"] dialect.table =
        .done (.command .showHistory) := hexec .privileged (by decide)
    have hback : Text.words (Text.joinWith " " ["show", "history"]) = ["show", "history"] := by
      decide
    rw [Dialect.commandOf?, hback, hcarried]

/-- What was entered is listed behind the echo. -/
theorem history_of_asksHistory (hfamily : d.family = .cisco) (h : AsksHistory d line)
    (devices : Inventory) :
    (d.interpret devices line).history =
      (d.echoed line).history ++ (d.echoed line).enteredCommands.flatMap logLines := by
  obtain ⟨v, hv, hcommand⟩ := Option.bind_eq_some_iff.mp h
  obtain ⟨help, hinterpret⟩ := speaks hfamily
  have hechoed : d.echoed line = Dialect.echo line d := by
    rw [echoed, if_neg (Dialect.trim_ne_of_verdict? hv)]
  rw [hinterpret, Dialect.interpret_of_some hv, hechoed]
  cases v with
  | incomplete => cases hcommand
  | unknown => cases hcommand
  | done m =>
    cases m with
    | command c =>
      cases hcommand
      exact history_logAll _ _
    | carried inner =>
      rw [Dialect.commandOf?] at hcommand
      split at hcommand
      next c hc =>
        cases hcommand
        rw [Dialect.act, Dialect.runCarried, hc]
        exact history_logAll _ _
      next => cases hcommand

end Ios

namespace Device

/-- **The commands entered.** On an IOS device that starts with an empty history and without marks,
    after any run of lines without marks, a line that asks for the commands entered is echoed, and
    behind the echo come those of all lines so far, itself included, whose prompt begins with the
    present hostname: trimmed, indented, in the order in which they were entered, without the blank
    ones. These are all of them if the hostname was the same for each. -/
theorem command_history {d : Device} (hfamily : d.family = .cisco) (hd : d.Unmarked)
    (hempty : d.history = []) {lines : List (Inventory × String)}
    (hlines : ∀ l ∈ lines, Discreet l) {devices : Inventory} {line : String}
    (hline : Discreet (devices, line)) (hasks : Ios.AsksHistory (d.enterLines lines) line) :
    let r := d.enterLines lines
    let typed := d.entered (lines ++ [(devices, line)])
    (r.interpret devices line).history =
      r.history ++ [r.prompt ++ " " ++ Text.trim line] ++ indented (recognised r.name typed) ∧
    ((∀ e ∈ typed, e.1.name = r.name) → recognised r.name typed = typed) := by
  intro r typed
  have hstart : Recording d := ⟨hfamily, hd, hempty ▸ List.forall_mem_nil _⟩
  have hr : Recording r := hstart.enterLines hlines
  refine ⟨?_, fun hsame => ?_⟩
  · have hname : (r.echoed line).name = r.name :=
      eq_of_forget Device.name (fun _ => rfl) (r.forget_echoed line)
    have hlisted : (r.echoed line).enteredCommands = indented (recognised r.name typed) := by
      rw [enteredCommands_eq, hname, recall_echoed hr hline hr.unmarked.name,
        recall_enterLines hstart hlines hr.unmarked.name, hempty, List.filterMap_nil,
        List.nil_append, ← indented_append, ← recognised_append, ← entered_append]
    have hsingle : SingleLines (r.echoed line).history := by
      rw [history_echoed]
      exact hr.history.append (r.singleLines_echoLines line)
    rw [Ios.history_of_asksHistory hr.family hasks devices,
      flatMap_logLines (singleLines_enteredCommands hsingle), hlisted, history_echoed,
      hr.echoLines_eq hline.oneLine, if_neg (Ios.trim_ne_of_asksHistory hasks)]
  · refine List.filter_eq_self.mpr fun e he => ?_
    have hprompt := begins_name_prompt ((family_of_mem_entered e he).trans hfamily)
    rw [hsame e he] at hprompt
    rw [recognises, hprompt, Bool.true_or, Bool.true_or]

/-- A router as it comes. -/
def freshRouter : Device := { id := "r1", name := "r1", kind := .router, vendor := .cisco }

/-- Lines entered where there is no other device. -/
def enteredAlone (lines : List String) : List (Inventory × String) :=
  lines.map fun line => (SortedMap.empty, line)

theorem discreet_enteredAlone (lines : List String)
    (h : (lines.all fun line => line.toList.all fun c => !Text.isMark c && c != '\n') = true) :
    ∀ l ∈ enteredAlone lines, Discreet l := by
  have hchars : ∀ line ∈ lines, ∀ c ∈ line.toList, Text.isMark c = false ∧ c ≠ '\n' := by
    simpa using h
  refine List.forall_mem_map.mpr fun line hline =>
    ⟨fun id peer hpeer => ?_, fun c hc => (hchars line hline c hc).1, fun hfeed => ?_⟩
  · rw [SortedMap.find?_empty] at hpeer
    cases hpeer
  · exact (hchars line hline '\n' (Text.subset_trim line hfeed)).2 rfl

/-- The lines that give a router another name. -/
def linesToRename : List String := ["enable", "configure terminal", "hostname X", "end"]

theorem command_history_renamed :
    let r := freshRouter.enterLines (enteredAlone linesToRename)
    (r.interpret SortedMap.empty "show history").history =
      r.history ++ ["X# show history"] ++ ["  end", "  show history"] := by
  intro r
  have hd : freshRouter.Unmarked := by
    refine ⟨⟨.fixed rfl, by decide, 'r', rfl, by decide⟩, ?_, ?_, List.forall_mem_nil _,
      List.forall_mem_nil _⟩
    · intro name i hi
      cases hi
    · intro v name hname
      cases hname
  have hlines := discreet_enteredAlone linesToRename rfl
  have hline := discreet_enteredAlone ["show history"] rfl _ List.mem_cons_self
  obtain ⟨hmode, hprompt, hlisted⟩ : r.mode = .privileged ∧ r.prompt = "X#" ∧
      indented (recognised r.name
        (freshRouter.entered (enteredAlone linesToRename ++ [(SortedMap.empty, "show history")]))) =
          ["  end", "  show history"] := by
    decide
  have hasks : Ios.AsksHistory r "show history" :=
    Ios.asksHistory_of_words (Or.inl ⟨by rw [hmode]; decide, by decide⟩)
  have hlisting := (command_history rfl hd rfl hlines hline hasks).1
  rw [hlisting, hlisted, hprompt]
  rfl

/-- Once the router has another name, what was entered under the old one is missing. -/
theorem rename_hides_commands :
    let r := freshRouter.enterLines (enteredAlone linesToRename)
    (r.interpret SortedMap.empty "show history").history ≠
      r.history ++ ["X# show history"] ++
        ["  enable", "  configure terminal", "  hostname X", "  end", "  show history"] := by
  decide

end Device

end TrainingLab
