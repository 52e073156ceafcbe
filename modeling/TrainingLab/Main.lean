import TrainingLab.Terminal.Program

/-
  The program: it reads the arguments and the settings, and then carries out the effects of every
  line.
-/

namespace TrainingLab.Terminal

/-- Carries out effects. -/
def carryOut (effects : List Effect) : IO Unit := do
  let output ← IO.getStdout
  for e in effects do
    match e with
    | .print text =>
      output.putStr text
      output.flush
    | .pause milliseconds => IO.sleep milliseconds.toUInt32

/-- How the program is called. -/
def usage : String := "Usage: [--config FILE] list|run|simulate|help-commands|ask|quiz ..."

/-- Reports an error. -/
def report (message : String) : IO Unit := IO.eprintln ("Error: " ++ message)

/-- Takes the lines of the input until it ends or nothing more is asked for. -/
partial def loop (s : State) : IO (Option String) := do
  match s with
  | .over error => return error
  | s =>
    let text ← (← IO.getStdin).getLine
    if text.isEmpty then
      let (effects, error) := endInput s
      carryOut effects
      return error
    else
      let (effects, s) := take s text
      carryOut effects
      loop s

/-- Carries out a command. -/
def perform (settings : Settings) (command : Command) : IO UInt32 := do
  let (effects, s) := start settings command
  carryOut effects
  let error ← loop s
  error.forM report
  return exitCode error

end TrainingLab.Terminal

open TrainingLab Terminal in
/-- The entry of the program. -/
def main (arguments : List String) : IO UInt32 := do
  match readArguments arguments with
  | .error .help =>
    IO.println usage
    return 0
  | .error .misuse =>
    IO.eprintln usage
    return 2
  | .ok invocation =>
    try
      match invocation.config with
      | none => perform {} invocation.command
      | some file =>
        match Settings.ofToml? (← IO.FS.readFile file) with
        | some settings => perform settings invocation.command
        | none =>
          report "Cannot parse the configuration"
          return 1
    catch e =>
      report e.toString
      return 1
