import TrainingLab.Session.MetaCommand
import TrainingLab.Terminal.Quiz
import TrainingLab.Tutor.Conversation

/-
  The interactive console of a lab. Lines go to the device whose console is open; lines behind a
  colon are commands for the session.
-/

namespace TrainingLab.Terminal

/-- The console of a lab: the session, and the conversation with the tutor. -/
structure Console where
  session : Session
  conversation : List Tutor.Message := []
deriving DecidableEq

/-- A line that reports an error. -/
def errorLine (message : String) : Effect := line ("% " ++ message)

/-- The last line about a path. -/
def verdict : Option StepOutcome → String
  | some .drop => "Packet dropped."
  | some _ => "Packet delivered."
  | none => "Nothing to simulate."

/-- Shows the steps of a path one after the other, with pauses between them if it is animated. -/
def play (l : Lab) (p : Playback) (animated : Bool) : List Effect :=
  let shown := lines (p.steps.map l.stepLine)
  (if animated then shown.intersperse (.pause p.delay) else shown) ++ [line (verdict p.outcome?)]

/-- The commands of a device. -/
def helpOf (d : Device) : List String := (Reference.ofFamily d.family).helpLines d.vendor

/-- What is done with a line: some effects, and then the next line, a quiz or the end. -/
inductive Next
  | go (c : Console)
  | quiz (run : QuizRun) (c : Console)
  | quit

namespace Console

/-- Goes on with the session of a result, and shows the lines of it. -/
def proceed (c : Console) (r : Except SessionError (Session × List String)) :
    List Effect × Next :=
  match r with
  | .ok (s, shown) => (lines shown, .go { c with session := s })
  | .error e => ([errorLine e.message], .go c)

/-- Shows lines of the session as it is. -/
def «show» (c : Console) (r : Except SessionError (List String)) : List Effect × Next :=
  c.proceed (r.map fun shown => (c.session, shown))

/-- Does a command for the session. -/
def command (c : Console) (m : MetaCommand) : List Effect × Next :=
  let s := c.session
  match m with
  | .help => c.show (s.active.map fun d => MetaCommand.helpText ++ [""] ++ helpOf d)
  | .devices => c.show (.ok s.deviceRows)
  | .useDevice id => c.proceed do
    let s ← s.select id
    s.unread
  | .topology => c.show (.ok [s.lab.pathLine])
  | .neighbors table =>
    c.show ((s.neighbors table).map fun rows =>
      if rows.isEmpty then ["No neighbors found."] else rows)
  | .complete text => c.show ((s.complete text).map fun completed => [completed])
  | .simulate protocol destination =>
    match s.simulate protocol destination with
    | .ok p => (play s.lab p true, .go c)
    | .error e => ([errorLine e.message], .go c)
  | .gui edit => c.proceed ((s.applyEdit edit).map fun (s, shown) => (s, [shown]))
  | .objectives =>
    c.show (.ok (s.lab.objectives.mapIdx fun n text => toString (n + 1) ++ ". " ++ text))
  | .docs =>
    let docs := s.lab.documentation
    c.show
      (.ok ["Initial configuration:", docs.initialConfig, "", "Packet flow:", docs.packetFlow])
  | .restart => c.proceed do
    let s ← s.restart
    let (s, shown) ← s.unread
    return (s, ("Lab " ++ s.lab.id ++ " restarted.") :: shown)
  | .ask question =>
    ([line (Tutor.reply question)],
      .go { c with conversation := Tutor.converse c.conversation question })
  | .quiz topic =>
    match Tutor.quiz topic with
    | .ok questions =>
      match startQuiz questions with
      | (effects, some run) => (effects, .quiz run c)
      | (effects, none) => (effects, .go c)
    | .error e => ([errorLine e.message], .go c)
  | .quit => ([], .quit)

/-- Takes a line. -/
def take (c : Console) (text : String) : List Effect × Next :=
  let text := String.ofList (Text.dropEndWhile (fun ch => ch = '\n' || ch = '\r') text.toList)
  if Text.begins ":" (Text.trimStart text) then
    match MetaCommand.read text with
    | .ok m => c.command m
    | .error e => ([errorLine e.message], .go c)
  else c.proceed (c.session.submit text)

/-- Opens the console of a lab, perhaps on a given device. -/
def «open» (lab : String) (device : Option DeviceId) (settings : ConsoleSettings) :
    Except SessionError (List Effect × Console) := do
  let s ← Session.start lab settings
  let s ← match device with
    | some id => s.select id
    | none => pure s
  let (s, shown) ← s.unread
  let heading :=
    [s.lab.title ++ " (" ++ s.lab.difficulty.name ++ ")", s.lab.description,
      "Type :help for the console commands.", ""]
  return (lines (heading ++ shown), { session := s })

end Console

end TrainingLab.Terminal
