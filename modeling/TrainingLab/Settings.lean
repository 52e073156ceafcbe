import TrainingLab.Datum.Basic
import TrainingLab.Toml.Reader

/-
  The settings of the program. Every one has a default, so every part of a settings document may
  be left out.
-/

namespace TrainingLab

open Datum

/-- The settings of the interactive console. -/
structure ConsoleSettings where
  /-- Milliseconds between two steps of a simulation. -/
  stepDelay : UInt64 := 800
  defaultLab : String := "lab-instance-a"
  /-- Devices show what their consoles printed at start. -/
  echoBootBanner : Bool := true
deriving DecidableEq, Repr

/-- The instruction that frames every conversation with the tutor. -/
def defaultInstruction : String :=
  "You are a world-class Senior Network Engineer and Mentor named \"Net-Start Bot\". Your goal " ++
  "is to teach beginners networking concepts clearly and concisely. Use analogies. If asked " ++
  "about a vendor command, provide both the command and an explanation. Be encouraging and " ++
  "professional. Format your response with Markdown (headers, lists, bold text)."

/-- The settings of the tutor. -/
structure TutorSettings where
  model : String := "offline"
  instruction : String := defaultInstruction
deriving DecidableEq, Repr

/-- All settings. -/
structure Settings where
  console : ConsoleSettings := {}
  tutor : TutorSettings := {}
deriving DecidableEq, Repr

namespace ConsoleSettings

/-- Reads the settings of the console. -/
def ofDatum? (d : Datum) : Option ConsoleSettings :=
  match
    fieldValues?
      [⟨"step_delay_ms", .always⟩, ⟨"default_lab", .always⟩, ⟨"echo_boot_banner", .always⟩] d with
  | some [stepDelay, defaultLab, echoBootBanner] => do
    let stepDelay ← orElse stepDelay 800 fun d => (d.natBelow? UInt64.size).map UInt64.ofNat
    let defaultLab ← orElse defaultLab "lab-instance-a" text?
    let echoBootBanner ← orElse echoBootBanner true bool?
    some { stepDelay, defaultLab, echoBootBanner }
  | _ => none

/-- Writes the settings of the console. -/
def toDatum (s : ConsoleSettings) : Datum :=
  .record
    [("step_delay_ms", .ofNat s.stepDelay.toNat), ("default_lab", .text s.defaultLab),
      ("echo_boot_banner", .bool s.echoBootBanner)]

end ConsoleSettings

namespace TutorSettings

/-- Reads the settings of the tutor. -/
def ofDatum? (d : Datum) : Option TutorSettings :=
  match fieldValues? [⟨"model", .always⟩, ⟨"system_instruction", .always⟩] d with
  | some [model, instruction] => do
    let model ← orElse model "offline" text?
    let instruction ← orElse instruction defaultInstruction text?
    some { model, instruction }
  | _ => none

/-- Writes the settings of the tutor. -/
def toDatum (s : TutorSettings) : Datum :=
  .record [("model", .text s.model), ("system_instruction", .text s.instruction)]

end TutorSettings

namespace Settings

/-- Reads all settings. -/
def ofDatum? (d : Datum) : Option Settings :=
  match fieldValues? [⟨"console", .always⟩, ⟨"tutor", .always⟩] d with
  | some [console, tutor] => do
    let console ← orElse console {} ConsoleSettings.ofDatum?
    let tutor ← orElse tutor {} TutorSettings.ofDatum?
    some { console, tutor }
  | _ => none

/-- Writes all settings. -/
def toDatum (s : Settings) : Datum :=
  .record [("console", s.console.toDatum), ("tutor", s.tutor.toDatum)]

/-- Reads settings in TOML. -/
def ofToml? (s : String) : Option Settings := (Toml.read? s).bind ofDatum?

end Settings

end TrainingLab
