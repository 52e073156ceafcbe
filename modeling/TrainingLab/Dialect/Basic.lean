import TrainingLab.Device.Prompt
import TrainingLab.Grammar.Rule

/-
  A dialect is the command language of one family: its table, its commands and their effects, and
  its words for lines that it does not take. Some lines carry another line to be run in a fixed
  mode at the top of the hierarchy, as `do` does on IOS and `run` on Junos.
-/

namespace TrainingLab

open Grammar

/-- What a line asks for: a command, or another line that it carries. -/
inductive Request (κ : Type)
  | command (c : κ)
  | carried (line : String)
deriving DecidableEq, Repr

/-- The command language of a family, with commands `κ`. -/
structure Dialect (κ : Type) where
  /-- The modes that a console of the family can be in. -/
  modes : List Mode
  /-- The command table. -/
  table : List (Rule (Request κ))
  /-- The effect of a command on the device, which may look at all devices of the lab. -/
  run : Inventory → κ → Device → Device
  /-- The answer to a line that no rule takes. -/
  unknown : Mode → String
  /-- The answer to a line that some rule takes in part. -/
  incomplete : String
  /-- The mode in which carried lines run. -/
  carriedMode : Mode := .user
  /-- The answer to a carried line that no rule takes. -/
  carriedUnknown : String := ""

namespace Dialect

variable {κ : Type}

/-- Runs a carried line at the top of the hierarchy. Mode and edited objects are as before
    afterwards, whatever the line does. A carried line carries no further line: no rule of the
    mode it runs in does. -/
def runCarried (l : Dialect κ) (devices : Inventory) (line : String) (d : Device) : Device :=
  let inner := (d.enter l.carriedMode).within []
  let after :=
    match dispatch l.carriedMode [] (Text.words line) l.table with
    | .done (.command c) => l.run devices c inner
    | .done (.carried _) => inner
    | .incomplete => inner.log l.incomplete
    | .unknown => inner.log l.carriedUnknown
  (after.enter d.mode).within d.context

/-- Runs the words of a line. -/
def execute (l : Dialect κ) (devices : Inventory) (tokens : List String) (d : Device) : Device :=
  match dispatch d.mode d.context tokens l.table with
  | .done (.command c) => l.run devices c d
  | .done (.carried line) => l.runCarried devices line d
  | .incomplete => d.log l.incomplete
  | .unknown => d.log (l.unknown d.mode)

/-- Takes a line from the console: echoes it behind the prompt, and answers a question mark with
    the given help and anything else by the table. A blank line gives the prompt alone. -/
def interpret (l : Dialect κ) (help : List String) (devices : Inventory) (line : String)
    (d : Device) : Device :=
  let line := Text.trim line
  if line == "" then d.log d.prompt
  else
    let echoed := d.log (d.prompt ++ " " ++ line)
    let tokens := Text.words line
    if tokens == ["?"] || tokens == ["help"] then echoed.logAll help
    else l.execute devices tokens echoed

end Dialect

end TrainingLab
