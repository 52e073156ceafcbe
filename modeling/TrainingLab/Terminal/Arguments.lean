import TrainingLab.Protocol
import TrainingLab.Text.Words

/-
  The arguments of the program. Options are `--name VALUE`, `--name=VALUE`, `-n VALUE`, `-nVALUE`
  or `-n=VALUE`; a value of its own does not begin with a minus, and no option is given twice.
  What follows `--` is taken as it is.
-/

namespace TrainingLab.Terminal

/-- What the program is asked to do. -/
inductive Command
  | list
  | run (lab : Option String) (device : Option String)
  | simulate (lab : String) (source : Option String) (protocol : Protocol)
      (destination : Option String)
  | helpCommands (lab device : String)
  | ask (words : List String)
  | quiz (words : List String)
deriving DecidableEq, Repr

/-- The arguments: a command, and the file of the settings if there is one. -/
structure Invocation where
  config : Option String
  command : Command
deriving DecidableEq, Repr

/-- Why arguments ask for nothing to be done. -/
inductive Refusal
  | help
  | misuse
deriving DecidableEq, Repr

/-- An option: its name, its letter, and the values it takes. -/
structure OptionSpec where
  name : String
  letter : Char
  takes : String → Bool := fun _ => true

/-- The option for the settings. -/
def configOption : OptionSpec := { name := "config", letter := 'c', takes := fun s => s != "" }

/-- A command line: its options, and how many words it takes. -/
structure LineSpec where
  options : List OptionSpec := [configOption]
  /-- At most so many words, or any number of them. -/
  most : Option Nat := some 0

/-- The options and words given so far. -/
structure Given where
  values : List (String × String) := []
  words : List String := []
deriving DecidableEq, Repr

namespace Given

/-- The value of an option. -/
def value? (g : Given) (name : String) : Option String := g.values.lookup name

/-- Adds the value of an option. -/
def setValue (g : Given) (o : OptionSpec) (value : String) : Except Refusal Given :=
  if (g.value? o.name).isSome || !o.takes value then .error .misuse
  else .ok { g with values := g.values ++ [(o.name, value)] }

/-- Adds a word. -/
def addWord (g : Given) (spec : LineSpec) (word : String) : Except Refusal Given :=
  if spec.most.any fun n => decide (n ≤ g.words.length) then .error .misuse
  else .ok { g with words := g.words ++ [word] }

end Given

/-! ## Single arguments -/

/-- What an argument is. -/
inductive Kind
  | word
  /-- All that follows are words. -/
  | separator
  | help
  /-- An option, with a value or in front of one. -/
  | option (o : OptionSpec) (value : Option String)
  | unknown

/-- An argument that begins with two minuses, without them. -/
def longKind (spec : LineSpec) (cs : List Char) : Kind :=
  let (name, value) := match Text.cutFirst (· == '=') cs with
    | some (name, value) => (String.ofList name, some (String.ofList value))
    | none => (String.ofList cs, none)
  if name == "help" then
    match value with
    | none => .help
    | some _ => .unknown
  else
    match spec.options.find? fun o => o.name == name with
    | some o => .option o value
    | none => .unknown

/-- An argument that begins with one minus, by the letter behind it. -/
def shortKind (spec : LineSpec) (letter : Char) (cs : List Char) : Kind :=
  if letter = 'h' then .help
  else
    match spec.options.find? fun o => o.letter == letter with
    | some o =>
      match cs with
      | [] => .option o none
      | '=' :: cs => .option o (some (String.ofList cs))
      | cs => .option o (some (String.ofList cs))
    | none => .unknown

/-- What an argument is. A single minus is a word. -/
def kindOf (spec : LineSpec) (argument : String) : Kind :=
  match argument.toList with
  | ['-', '-'] => .separator
  | '-' :: '-' :: cs => longKind spec cs
  | '-' :: c :: cs => shortKind spec c cs
  | _ => .word

/-- The argument can be the value of an option in front of it. -/
def isValue (argument : String) : Bool :=
  match argument.toList with
  | '-' :: _ :: _ => false
  | _ => true

/-! ## Lines of arguments -/

/-- Goes through arguments up to one that `stops` as the first word of something else, and gives
    what follows from there on. -/
def scan (spec : LineSpec) (stops : String → Bool) :
    Given → List String → Except Refusal (Given × List String)
  | g, [] => .ok (g, [])
  | g, argument :: rest =>
    match kindOf spec argument with
    | .word =>
      if stops argument then .ok (g, argument :: rest)
      else do scan spec stops (← g.addWord spec argument) rest
    | .separator => do return (← rest.foldlM (fun g word => g.addWord spec word) g, [])
    | .help => .error .help
    | .option o (some value) => do scan spec stops (← g.setValue o value) rest
    | .option o none =>
      match rest with
      | value :: rest =>
        if isValue value then do scan spec stops (← g.setValue o value) rest
        else .error .misuse
      | [] => .error .misuse
    | .unknown => .error .misuse

/-- The commands with their lines. -/
def commandSpecs : List (String × LineSpec) :=
  [("list", {}),
    ("run", { options := [configOption, { name := "device", letter := 'd' }], most := some 1 }),
    ("simulate",
      { options :=
          [configOption, { name := "from", letter := 'f' },
            { name := "protocol", letter := 'p', takes := fun s => (Protocol.ofName? s).isSome },
            { name := "to", letter := 't' }]
        most := some 1 }),
    ("help-commands", { most := some 2 }),
    ("ask", { most := none }),
    ("quiz", { most := none })]

/-- The command of a name with what was given. -/
def commandOf? (name : String) (g : Given) : Option Command :=
  match name, g.words with
  | "list", [] => some .list
  | "run", [] => some (.run none (g.value? "device"))
  | "run", [lab] => some (.run (some lab) (g.value? "device"))
  | "simulate", [lab] =>
    let protocol := ((g.value? "protocol").bind Protocol.ofName?).getD .http
    some (.simulate lab (g.value? "from") protocol (g.value? "to"))
  | "help-commands", [lab, device] => some (.helpCommands lab device)
  | "ask", word :: words => some (.ask (word :: words))
  | "quiz", word :: words => some (.quiz (word :: words))
  | _, _ => none

/-- The name of a command, or of the help about commands. -/
def isCommandName (s : String) : Bool := s == "help" || (commandSpecs.lookup s).isSome

/-- Reads the arguments. Options that every command has may stand in front of it; of two the one
    behind it counts. -/
def readArguments (arguments : List String) : Except Refusal Invocation := do
  let (front, rest) ← scan {} isCommandName {} arguments
  match rest with
  | [] => .error .misuse
  | "help" :: about =>
    match about with
    | [] => .error .help
    | [name] => .error (if isCommandName name then .help else .misuse)
    | _ => .error .misuse
  | name :: rest =>
    match commandSpecs.lookup name with
    | none => .error .misuse
    | some spec =>
      let (given, _) ← scan spec (fun _ => false) {} rest
      match commandOf? name given with
      | some command =>
        .ok { config := (given.value? "config").or (front.value? "config"), command }
      | none => .error .misuse

end TrainingLab.Terminal
