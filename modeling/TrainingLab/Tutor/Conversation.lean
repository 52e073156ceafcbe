import TrainingLab.Settings
import TrainingLab.Tutor.Offline

/-
  Conversations with the tutor, and how they are sent to a language model.
-/

namespace TrainingLab.Tutor

open Datum

/-- The author of a message. -/
inductive Role
  | user
  | model
deriving DecidableEq, Repr

/-- The name of the author. -/
def Role.name : Role → String
  | user => "user"
  | model => "model"

/-- One message of a conversation. -/
structure Message where
  role : Role
  text : String
deriving DecidableEq, Repr

/-- Reads an author. -/
def readRole? (d : Datum) : Option Role :=
  choice? (fun s => [Role.user, Role.model].find? fun r => r.name == s) d

/-- Reads a message. The time it was sent is not kept. -/
def Message.ofDatum? (d : Datum) : Option Message :=
  match fieldValues? [⟨"role", .never⟩, ⟨"text", .never⟩, ⟨"timestamp", .never⟩] d with
  | some [role, text, timestamp] => do
    let role ← required role readRole?
    let text ← required text text?
    let _ ← required timestamp (natBelow? UInt64.size)
    some { role, text }
  | _ => none

/-- A message as a language model takes it. -/
def contentDatum (m : Message) : Datum :=
  .record
    [("role", .text m.role.name), ("parts", .list [.record [("text", .text m.text)]])]

/-- The request for an answer to a message after a history. -/
def chatRequest (s : TutorSettings) (history : List Message) (message : String) : Datum :=
  .record
    [("model", .text s.model), ("systemInstruction", .text s.instruction),
      ("contents", .list ((history.concat ⟨.user, message⟩).map contentDatum))]

/-- The offline tutor is the only one that can be had. -/
def select (s : TutorSettings) : Except TutorError Unit :=
  if s.model == "offline" then .ok () else .error (.unavailable s.model)

/-- Adds a message and the answer to it. -/
def converse (history : List Message) (message : String) : List Message :=
  history ++ [⟨.user, message⟩, ⟨.model, reply message⟩]

end TrainingLab.Tutor
