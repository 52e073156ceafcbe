import TrainingLab.Proofs.Device.Printing
import TrainingLab.Proofs.Session.Scrollback

/-
  The scrollback only grows, and what a line adds behind its echo depends on its words alone. All
  commands add single lines; all but those that list the history are orderly, so they add the same
  lines behind any history (`Answering`). So the answer to a line is the one that the device
  without a history gives to its words (`interpret_eq_prepend`).

  Proved:
  * `Answering.prints_respond`, `Answering.interpret_eq_prepend`: lines of a dialect whose commands
    are of this kind.
  * `scrollback_append_only`: the consoles of all families, and the edits.
-/

namespace TrainingLab

open Grammar Device

/-! ## Lines -/

theorem Device.mode_echoed (d : Device) (line : String) : (d.echoed line).mode = d.mode :=
  eq_of_forget Device.mode mode_forget (d.forget_echoed line)

theorem Device.context_echoed (d : Device) (line : String) :
    (d.echoed line).context = d.context :=
  eq_of_forget Device.context (fun _ => rfl) (d.forget_echoed line)

namespace Dialect

variable {κ : Type} {l : Dialect κ} {lists : κ → Prop}

/-- Commands add single lines to the history, and only those that list the history look at it. -/
structure Answering (l : Dialect κ) (lists : κ → Prop) : Prop where
  prints : ∀ c devices d, Prints d (l.run devices c d)
  answers : ∀ c devices, ¬ lists c → Answers (l.run devices c)

theorem Answering.of_orderly {rejection : String → Prop}
    (h : ∀ c devices, Orderly rejection (l.run devices c)) : l.Answering fun _ => False :=
  ⟨fun c devices d => ((h c devices).answers [] d).prints, fun c devices _ => (h c devices).answers⟩

/-- A dialect with one command that lists the history. -/
theorem Answering.of_lister {rejection : String → Prop} {lister : κ}
    (hlister : ∀ devices d, Prints d (l.run devices lister d))
    (h : ∀ {c}, c ≠ lister → ∀ devices, Orderly rejection (l.run devices c)) :
    l.Answering (· = lister) := by
  refine ⟨fun c devices d => ?_, fun c devices hc => (h hc devices).answers⟩
  by_cases hc : c = lister
  · rw [hc]
    exact hlister devices d
  · exact ((h hc devices).answers [] d).prints

/-- The command that a verdict comes to, be it that of the line itself or that of the line which it
    carries. -/
def commandOf? (l : Dialect κ) : Verdict (Request κ) → Option κ
  | .done (.command c) => some c
  | .done (.carried line) =>
    match dispatch l.carriedMode [] (Text.words line) l.table with
    | .done (.command c) => some c
    | _ => none
  | _ => none

/-- The command that the words of a line come to. -/
def command? (l : Dialect κ) (tokens : List String) (d : Device) : Option κ :=
  l.commandOf? (dispatch d.mode d.context tokens l.table)

/-- What the device does about the words of a line, once the line is echoed. -/
def respond (l : Dialect κ) (help : List String) (devices : Inventory) (tokens : List String)
    (d : Device) : Device :=
  if tokens = [] then d
  else if tokens = ["?"] ∨ tokens = ["help"] then d.logAll help
  else l.act devices (dispatch d.mode d.context tokens l.table) d

/-- Only the echo looks at more of a line than its words. -/
theorem interpret_eq_respond (l : Dialect κ) (help : List String) (devices : Inventory)
    (line : String) (d : Device) :
    l.interpret help devices line d = l.respond help devices (Text.words line) (d.echoed line) := by
  unfold respond
  by_cases hblank : Text.trim line = ""
  · rw [if_pos (Text.words_eq_nil_iff.mpr hblank), echoed, if_pos hblank]
    simp [interpret, hblank]
  · have hwords : Text.words line ≠ [] := fun hnil => hblank (Text.words_eq_nil_iff.mp hnil)
    have hechoed : d.echoed line = echo line d := if_neg hblank
    rw [if_neg hwords]
    by_cases hhelp : Text.words line = ["?"] ∨ Text.words line = ["help"]
    · rw [if_pos hhelp, hechoed]
      simp [interpret, echo, hblank, Text.words_trim, hhelp]
    · have hv : l.verdict? line d =
          some (dispatch d.mode d.context (Text.words line) l.table) := by
        simp [verdict?, hblank, Text.words_trim, hhelp]
      rw [if_neg hhelp, interpret_of_some hv, mode_echoed, context_echoed, hechoed]

/-! ### Printing -/

/-- What is printed below the hierarchy is printed at its top. -/
theorem prints_carried (mode : Mode) {d after : Device}
    (h : Prints ((d.enter mode).within []) after) :
    Prints d ((after.enter d.mode).within d.context) := h

theorem answered_carried (mode : Mode) {earlier : List String} {d after other : Device}
    (h : Answered earlier ((d.enter mode).within []) after other) :
    Answered earlier d ((after.enter d.mode).within d.context)
      ((other.enter d.mode).within d.context) := by
  refine ⟨prints_carried mode h.prints, ?_⟩
  rw [h.blind]
  rfl

namespace Answering

theorem prints_runCarried (h : l.Answering lists) (devices : Inventory) (line : String)
    (d : Device) : Prints d (l.runCarried devices line d) := by
  unfold runCarried
  refine prints_carried l.carriedMode ?_
  split
  next c _ => exact h.prints c devices _
  next => exact .silent rfl
  next => exact .logged _ _
  next => exact .logged _ _

theorem prints_act (h : l.Answering lists) (devices : Inventory) (v : Verdict (Request κ))
    (d : Device) : Prints d (l.act devices v d) := by
  cases v with
  | done m =>
    cases m with
    | command c => exact h.prints c devices d
    | carried line => exact h.prints_runCarried devices line d
  | incomplete => exact .logged d _
  | unknown => exact .logged d _

theorem prints_respond (h : l.Answering lists) (help : List String) (devices : Inventory)
    (tokens : List String) (d : Device) : Prints d (l.respond help devices tokens d) := by
  unfold respond
  split
  next => exact .silent rfl
  next =>
    split
    next => exact .printed d help
    next => exact h.prints_act devices _ d

/-- A line adds its echo to the history and then single lines. -/
theorem history_interpret (h : l.Answering lists) (help : List String) (devices : Inventory)
    (line : String) (d : Device) :
    ∃ answer, (l.interpret help devices line d).history =
      d.history ++ d.echoLines line ++ answer ∧ SingleLines answer := by
  obtain ⟨answer, hanswer, hlines⟩ :=
    h.prints_respond help devices (Text.words line) (d.echoed line)
  refine ⟨answer, ?_, hlines⟩
  rw [interpret_eq_respond, hanswer, history_echoed]

/-! ### Any history -/

theorem answered_runCarried (h : l.Answering lists) (devices : Inventory) {line : String}
    (hlists : ∀ c, l.commandOf? (.done (.carried line)) = some c → ¬ lists c)
    (earlier : List String) (d : Device) :
    Answered earlier d (l.runCarried devices line d)
      (l.runCarried devices line (d.prepend earlier)) := by
  unfold runCarried
  simp only [commandOf?] at hlists
  refine answered_carried l.carriedMode ?_
  cases hv : dispatch l.carriedMode [] (Text.words line) l.table with
  | done m =>
    cases m with
    | command c =>
      have hc : ¬ lists c := hlists c (by rw [hv])
      exact h.answers c devices hc earlier _
    | carried _ => exact .silent rfl rfl
  | incomplete => exact .logged earlier _ _
  | unknown => exact .logged earlier _ _

theorem answered_act (h : l.Answering lists) (devices : Inventory) {v : Verdict (Request κ)}
    (hlists : ∀ c, l.commandOf? v = some c → ¬ lists c) (earlier : List String) (d : Device) :
    Answered earlier d (l.act devices v d) (l.act devices v (d.prepend earlier)) := by
  cases v with
  | done m =>
    cases m with
    | command c => exact h.answers c devices (hlists c rfl) earlier d
    | carried line => exact h.answered_runCarried devices hlists earlier d
  | incomplete => exact .logged earlier d _
  | unknown => exact .logged earlier d _

theorem answered_respond (h : l.Answering lists) (help : List String) (devices : Inventory)
    {tokens : List String} {d : Device} (hlists : ∀ c, l.command? tokens d = some c → ¬ lists c)
    (earlier : List String) :
    Answered earlier d (l.respond help devices tokens d)
      (l.respond help devices tokens (d.prepend earlier)) := by
  unfold respond
  by_cases hblank : tokens = []
  · rw [if_pos hblank, if_pos hblank]
    exact .silent rfl rfl
  · rw [if_neg hblank, if_neg hblank]
    by_cases hhelp : tokens = ["?"] ∨ tokens = ["help"]
    · rw [if_pos hhelp, if_pos hhelp]
      exact .printed earlier d help
    · rw [if_neg hhelp, if_neg hhelp]
      exact h.answered_act devices hlists earlier d

/-- Unless it lists the history, a line is answered as if there were no history, behind the history
    and the echo. -/
theorem interpret_eq_prepend (h : l.Answering lists) (help : List String) (devices : Inventory)
    {line : String} {d : Device}
    (hlists : ∀ c, l.command? (Text.words line) d = some c → ¬ lists c) :
    l.interpret help devices line d =
      (l.respond help devices (Text.words line) d.forget).prepend
        (d.history ++ d.echoLines line) := by
  have hechoed : d.echoed line = d.forget.prepend (d.history ++ d.echoLines line) := by
    rw [← history_echoed, ← d.forget_echoed line, prepend_forget]
  rw [interpret_eq_respond, hechoed]
  exact (h.answered_respond help devices (d := d.forget) hlists _).blind

/-- Lines of the same words get the same answer, unless they list the history. -/
theorem same_answer (h : l.Answering lists) (help : List String) (devices : Inventory)
    {line other : String} {d : Device} (hwords : Text.words line = Text.words other)
    (hlists : ∀ c, l.command? (Text.words line) d = some c → ¬ lists c) :
    ∃ answer,
      (l.interpret help devices line d).history = d.history ++ d.echoLines line ++ answer ∧
      (l.interpret help devices other d).history = d.history ++ d.echoLines other ++ answer := by
  refine ⟨(l.respond help devices (Text.words line) d.forget).history, ?_, ?_⟩
  · rw [h.interpret_eq_prepend help devices hlists]
    rfl
  · rw [hwords] at hlists ⊢
    rw [h.interpret_eq_prepend help devices hlists]
    rfl

end Answering

/-- Lines of the same words do the same, apart from what they print. -/
theorem forget_interpret_of_words (h : l.SelfContained) (help : List String) (devices : Inventory)
    {line other : String} (hwords : Text.words line = Text.words other) (d : Device) :
    (l.interpret help devices line d).forget = (l.interpret help devices other d).forget := by
  have hecho : (d.echoed line).forget = (d.echoed other).forget := by
    rw [d.forget_echoed line, d.forget_echoed other]
  rw [interpret_eq_respond, interpret_eq_respond, ← hwords]
  unfold respond
  split
  next => exact hecho
  next =>
    split
    next => rw [forget_logAll, forget_logAll, hecho]
    next =>
      have hact := sameEffect_act h devices devices
        (dispatch d.mode d.context (Text.words line) l.table)
      rw [mode_echoed, context_echoed, mode_echoed, context_echoed]
      exact hact.congr hact hecho

end Dialect

/-! ## Consoles -/

theorem Ios.answering : Ios.dialect.Answering (· = .showHistory) :=
  .of_lister (fun _ d => .printed d d.enteredCommands) Ios.orderly_run

theorem Junos.answering : Junos.dialect.Answering (· = .showHistory) :=
  .of_lister (fun _ d => .printed d d.enteredCommands) Junos.orderly_run

theorem FortiOs.answering : FortiOs.dialect.Answering fun _ => False :=
  .of_orderly FortiOs.orderly_run

theorem PanOs.answering : PanOs.dialect.Answering fun _ => False := .of_orderly PanOs.orderly_run

theorem Cloud.answering : Cloud.dialect.Answering fun _ => False := .of_orderly Cloud.orderly_run

namespace Device

/-- The line asks for the history, by itself or through a line that it carries. -/
def AsksForHistory (d : Device) (line : String) : Prop :=
  match d.family with
  | .cisco => Ios.dialect.command? (Text.words line) d = some .showHistory
  | .juniper => Junos.dialect.command? (Text.words line) d = some .showHistory
  | .fortinet => False
  | .paloAlto => False
  | .cloud => False

theorem singleLines_interpret (d : Device) (devices : Inventory) (line : String) :
    ∃ answer, (d.interpret devices line).history = d.history ++ d.echoLines line ++ answer ∧
      SingleLines answer := by
  unfold interpret
  cases d.family with
  | cisco => exact Ios.answering.history_interpret _ devices line d
  | juniper => exact Junos.answering.history_interpret _ devices line d
  | fortinet => exact FortiOs.answering.history_interpret _ devices line d
  | paloAlto => exact PanOs.answering.history_interpret _ devices line d
  | cloud => exact Cloud.answering.history_interpret _ devices line d

theorem forget_interpret_of_words (d : Device) (devices : Inventory) {line other : String}
    (h : Text.words line = Text.words other) :
    (d.interpret devices line).forget = (d.interpret devices other).forget := by
  unfold interpret
  cases d.family with
  | cisco => exact Dialect.forget_interpret_of_words Ios.selfContained _ devices h d
  | juniper => exact Dialect.forget_interpret_of_words Junos.selfContained _ devices h d
  | fortinet => exact Dialect.forget_interpret_of_words FortiOs.selfContained _ devices h d
  | paloAlto => exact Dialect.forget_interpret_of_words PanOs.selfContained _ devices h d
  | cloud => exact Dialect.forget_interpret_of_words Cloud.selfContained _ devices h d

theorem same_answer {d : Device} {line other : String} (devices : Inventory)
    (h : Text.words line = Text.words other) (hlists : ¬ d.AsksForHistory line) :
    ∃ answer,
      (d.interpret devices line).history = d.history ++ d.echoLines line ++ answer ∧
      (d.interpret devices other).history = d.history ++ d.echoLines other ++ answer := by
  unfold AsksForHistory at hlists
  unfold interpret
  cases hf : d.family with
  | cisco =>
    rw [hf] at hlists
    refine Ios.answering.same_answer _ devices h fun c hc hshow => ?_
    exact hlists (hshow ▸ hc)
  | juniper =>
    rw [hf] at hlists
    refine Junos.answering.same_answer _ devices h fun c hc hshow => ?_
    exact hlists (hshow ▸ hc)
  | fortinet => exact FortiOs.answering.same_answer _ devices h fun _ _ => not_false
  | paloAlto => exact PanOs.answering.same_answer _ devices h fun _ _ => not_false
  | cloud => exact Cloud.answering.same_answer _ devices h fun _ _ => not_false

/-- **The scrollback only grows, behind a faithful echo.** A line leaves the id, the vendor and the
    class of the device as they are, and adds to its history the lines of the prompt before it, with
    the trimmed line behind it if the line is not blank, and then an answer without line feeds.
    Lines of the same words do the same; what they add differs in the echo alone, unless they list
    the history. An edit leaves the id, the vendor and the class as they are, and adds at least one
    entry. -/
theorem scrollback_append_only (d : Device) (devices : Inventory) :
    (∀ line, (d.interpret devices line).id = d.id ∧
      (d.interpret devices line).vendor = d.vendor ∧
      (d.interpret devices line).kind = d.kind ∧
      ∃ answer, (d.interpret devices line).history = d.history ++ d.echoLines line ++ answer ∧
        ∀ entry ∈ answer, '\n' ∉ entry.toList) ∧
    (∀ line other, Text.words line = Text.words other →
      (d.interpret devices line).forget = (d.interpret devices other).forget ∧
      (¬ d.AsksForHistory line → ∃ answer,
        (d.interpret devices line).history = d.history ++ d.echoLines line ++ answer ∧
        (d.interpret devices other).history = d.history ++ d.echoLines other ++ answer)) ∧
    (∀ e, (d.applyEdit e).id = d.id ∧ (d.applyEdit e).vendor = d.vendor ∧
      (d.applyEdit e).kind = d.kind ∧
      ∃ entries, entries ≠ [] ∧ (d.applyEdit e).history = d.history ++ entries) := by
  refine ⟨fun line => ?_, fun line other hwords => ?_, fun e => ?_⟩
  · have hidentity := (sameEffect_interpret devices devices line d).2
    obtain ⟨hid, hkind, hvendor⟩ := identity_eq_iff.mp hidentity
    exact ⟨hid, hvendor, hkind, d.singleLines_interpret devices line⟩
  · exact ⟨d.forget_interpret_of_words devices hwords, same_answer devices hwords⟩
  · obtain ⟨hid, hkind, hvendor⟩ := identity_eq_iff.mp (sameEffect_applyEdit e d).2
    exact ⟨hid, hvendor, hkind, d.reported_applyEdit e⟩

/-- Blanks around and between the words of `show version` show in the echo and nowhere else. -/
theorem scrollback_append_only_blanks :
    let d : Device := { id := "r1", name := "r1", kind := .router, vendor := .cisco }
    let none : Inventory := SortedMap.empty
    ∃ answer,
      (d.interpret none "show version").history = ["r1> show version"] ++ answer ∧
      (d.interpret none "  show   version ").history = ["r1> show   version"] ++ answer := by
  intro d none
  have hwords : Text.words "show version" = Text.words "  show   version " := by decide +kernel
  have hother : Ios.dialect.command? (Text.words "show version") d ≠ some .showHistory := by
    decide +kernel
  obtain ⟨answer, hfirst, hsecond⟩ :=
    ((scrollback_append_only d none).2.1 "show version" "  show   version " hwords).2 hother
  have hecho : d.history ++ d.echoLines "show version" = ["r1> show version"] := by decide +kernel
  have hecho' : d.history ++ d.echoLines "  show   version " = ["r1> show   version"] := by
    decide +kernel
  rw [hecho] at hfirst
  rw [hecho'] at hsecond
  exact ⟨answer, hfirst, hsecond⟩

end Device

end TrainingLab
