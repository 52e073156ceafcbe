import TrainingLab.Catalog.Basic
import TrainingLab.Lab.Operations
import TrainingLab.Session.Playback
import TrainingLab.Settings

/-
  Sessions. A session is a running lab as one user sees it: one console is open, and of every
  scrollback a part has been shown.
-/

namespace TrainingLab

/-- Why something in a session fails. -/
inductive SessionError
  | lab (e : LabError)
  | unknownMeta (name : String)
  | invalidArguments (command arguments : String)
  | emptyLab (id : String)
deriving DecidableEq, Repr

/-- The message of the error. -/
def SessionError.message : SessionError → String
  | lab e => e.message
  | unknownMeta name =>
    "Unknown command \x60:" ++ name ++ "\x60. Type \x60:help\x60 for a list of commands."
  | invalidArguments command arguments =>
    "Invalid arguments for \x60:" ++ command ++ "\x60: " ++ Text.quoted arguments
  | emptyLab id => "The lab " ++ id ++ " has no devices"

/-- The device whose console is opened first: of the first firewall in the topology, else of its
    first node, else the first device. -/
def Lab.firstDevice? (l : Lab) : Option DeviceId :=
  match (l.topology.find? fun n => n.icon == .firewall).or l.topology.head? with
  | some n => some n.deviceId
  | none => l.devices.keys.head?

/-- A running lab with an open console. -/
structure Session where
  lab : Lab
  activeId : DeviceId
  /-- How many lines of the scrollbacks have been shown; none of those that are missing. -/
  shown : SortedMap DeviceId Nat
  settings : ConsoleSettings
deriving DecidableEq

namespace Session

/-! ## Start -/

/-- Opens a session on a lab. -/
def ofLab (l : Lab) (settings : ConsoleSettings) : Except SessionError Session :=
  match l.firstDevice? with
  | none => .error (.emptyLab l.id)
  | some activeId =>
    .ok
      { lab := l
        activeId
        shown :=
          if settings.echoBootBanner then SortedMap.empty
          else SortedMap.ofList (l.devices.entries.map fun (id, d) => (id, d.history.length))
        settings }

/-- Opens a session on a lab of the catalog. -/
def start (id : String) (settings : ConsoleSettings) : Except SessionError Session := do
  ofLab (← (Catalog.lab id).mapError .lab) settings

/-! ## The open console -/

/-- The device whose console is open. -/
def active (s : Session) : Except SessionError Device :=
  (s.lab.device? s.activeId).mapError .lab

/-- The prompt of the open console. -/
def prompt (s : Session) : Except SessionError String := s.active.map Device.prompt

/-- Opens the console of another device. -/
def select (s : Session) (id : DeviceId) : Except SessionError Session :=
  ((s.lab.device? id).mapError .lab).map fun d => { s with activeId := d.id }

/-- Takes the whole scrollback of a device as shown. -/
def markShown (s : Session) (d : Device) : Session :=
  { s with shown := s.shown.insert s.activeId d.history.length }

/-- Shows what has not been shown yet of the open console. -/
def unread (s : Session) : Except SessionError (Session × List String) :=
  s.active.map fun d =>
    (s.markShown d, d.history.drop ((s.shown.find? s.activeId).getD 0))

/-- Goes on with a lab in which the device of the open console has changed. -/
def continueWith (s : Session) (l : Lab) : Except SessionError (Session × Device) := do
  let s := { s with lab := l }
  let d ← s.active
  return (s.markShown d, d)

/-- Sends a line to the open console and shows what it prints behind the echo of the line. -/
def submit (s : Session) (line : String) : Except SessionError (Session × List String) := do
  let before ← s.active
  let l ← (s.lab.execute s.activeId line).mapError .lab
  let (s, after) ← s.continueWith l
  let echo := (Text.lines before.prompt).length
  return (s, after.history.drop (before.history.length + echo))

/-- Applies an edit to the device of the open console and shows the line about it. -/
def applyEdit (s : Session) (e : GuiEdit) : Except SessionError (Session × String) := do
  let l ← (s.lab.applyEdit s.activeId e).mapError .lab
  let (s, after) ← s.continueWith l
  return (s, after.history.getLast?.getD "")

/-- Completes the last word of a line. -/
def complete (s : Session) (line : String) : Except SessionError String :=
  (s.lab.complete s.activeId line).mapError .lab

/-- A neighbor table of the device. -/
def neighbors (s : Session) (table : NeighborTable) : Except SessionError (List String) :=
  (s.lab.neighbors s.activeId table).mapError .lab

/-- The path of a packet from the device, over the whole topology or to a destination. -/
def simulate (s : Session) (protocol : Protocol) (destination : Option DeviceId) :
    Except SessionError Playback :=
  let steps :=
    match destination with
    | some destination => s.lab.simulateTo s.activeId destination protocol
    | none => s.lab.simulate s.activeId protocol
  (steps.mapError .lab).map fun steps => { steps, delay := s.settings.stepDelay }

/-! ## The whole lab -/

/-- One row for every device, with a star at the open console. -/
def deviceRows (s : Session) : List String :=
  s.lab.devices.entries.map fun (id, d) =>
    Text.columns
      [(1, if id == s.activeId then "*" else " "), (12, id), (16, d.name), (12, d.kind.name)]
      d.vendor.name

/-- Starts the lab again as it is in the catalog. The console stays on its device if the lab still
    has it. -/
def restart (s : Session) : Except SessionError Session := do
  let fresh ← start s.lab.id s.settings
  return if fresh.lab.devices.contains s.activeId then { fresh with activeId := s.activeId }
    else fresh

end Session

end TrainingLab
