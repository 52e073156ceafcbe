import TrainingLab.Terminal.Arguments
import TrainingLab.Terminal.Console

/-
  The program at a terminal. It does what it is asked to, and then waits for lines as long as
  there is a console or a quiz.
-/

namespace TrainingLab.Terminal

/-- What the program waits for. -/
inductive State
  | console (c : Console)
  /-- An answer; a console may go on after the quiz. -/
  | quiz (run : QuizRun) (after : Option Console)
  /-- Nothing: it is over, perhaps with an error. -/
  | over (error : Option String)

/-- The exit code. -/
def exitCode (error : Option String) : UInt32 := if error.isSome then 1 else 0

/-- Shows the prompt of a console and waits for a line. -/
def await (c : Console) : List Effect × State :=
  match c.session.prompt with
  | .ok prompt => ([.print (prompt ++ " ")], .console c)
  | .error e => ([], .over (some e.message))

/-- More effects in front of those of a state. -/
def after (effects : List Effect) (s : List Effect × State) : List Effect × State :=
  (effects ++ s.1, s.2)

/-- Shows lines, and that is all. -/
def finish (shown : List String) : List Effect × State := (lines shown, .over none)

/-- The row of a lab in the catalog. -/
def labRow (l : Lab) : String :=
  Text.padRight 16 l.id ++ " " ++ l.title ++ " (" ++ l.difficulty.name ++ ", " ++ l.vendor ++ ")"

/-- Simulates a packet through a lab. -/
def simulateIn (lab : String) (source : Option DeviceId) (protocol : Protocol)
    (destination : Option DeviceId) (settings : ConsoleSettings) :
    Except SessionError (List Effect) := do
  let s ← Session.start lab settings
  let s ← match source with
    | some id => s.select id
    | none => pure s
  let p ← s.simulate protocol destination
  return play s.lab p false

/-- The commands of a device of a lab. -/
def helpIn (lab : String) (device : DeviceId) : Except LabError (List String) := do
  let l ← Catalog.lab lab
  return helpOf (← l.device? device)

/-- Starts a command. A tutor model that is not available is replaced by the offline tutor. -/
def start (settings : Settings) : Command → List Effect × State
  | .list =>
    match Catalog.labs with
    | .ok labs => finish (labs.map labRow)
    | .error e => ([], .over (some e.message))
  | .run lab device =>
    match Console.open (lab.getD settings.console.defaultLab) device settings.console with
    | .ok (effects, c) => after effects (await c)
    | .error e => ([], .over (some e.message))
  | .simulate lab source protocol destination =>
    match simulateIn lab source protocol destination settings.console with
    | .ok effects => (effects, .over none)
    | .error e => ([], .over (some e.message))
  | .helpCommands lab device =>
    match helpIn lab device with
    | .ok shown => finish shown
    | .error e => ([], .over (some e.message))
  | .ask words => finish [Tutor.reply (Text.joinWith " " words)]
  | .quiz words =>
    match Tutor.quiz (Text.joinWith " " words) with
    | .ok questions =>
      match startQuiz questions with
      | (effects, some run) => (effects, .quiz run none)
      | (effects, none) => (effects, .over none)
    | .error e => ([], .over (some e.message))

/-- Goes on after a quiz. -/
def resume : Option Console → List Effect × State
  | some c => await c
  | none => ([], .over none)

/-- Takes a line. -/
def take (s : State) (text : String) : List Effect × State :=
  match s with
  | .console c =>
    match c.take text with
    | (effects, .go c) => after effects (await c)
    | (effects, .quiz run c) => (effects, .quiz run (some c))
    | (effects, .quit) => (effects, .over none)
  | .quiz run c =>
    match run.take text with
    | (effects, some run) => (effects, .quiz run c)
    | (effects, none) => after effects (resume c)
  | .over error => ([], .over error)

/-- The input ends: a quiz gets no more answers, and a console is left. -/
def endInput : State → List Effect × Option String
  | .console _ => ([line ""], none)
  | .quiz run none => (run.giveUp, none)
  | .quiz run (some c) =>
    match await c with
    | (effects, .console _) => (run.giveUp ++ effects ++ [line ""], none)
    | (effects, _) => (run.giveUp ++ effects, none)
  | .over error => ([], error)

/-- A whole run: all that appears, and the error it ends with. -/
def run (settings : Settings) (command : Command) (input : List String) :
    String × Option String :=
  let (effects, s) :=
    input.foldl
      (fun (effects, s) text =>
        let (more, s) := take s text
        (effects ++ more, s))
      (start settings command)
  let (more, error) := endInput s
  (textOf (effects ++ more), error)

end TrainingLab.Terminal
