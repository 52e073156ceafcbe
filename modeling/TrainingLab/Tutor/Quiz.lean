import TrainingLab.Datum.Basic
import TrainingLab.Json.Reader
import TrainingLab.Text.Quoted

/-
  Quizzes of multiple-choice questions, and their exchange with a language model.
-/

namespace TrainingLab.Tutor

open Datum

/-- Why the tutor has no answer. -/
inductive TutorError
  | unavailable (model : String)
  | invalidQuiz
  | invalidAnswer (question : String)
  | emptyQuiz
deriving DecidableEq, Repr

/-- The message of the error. -/
def TutorError.message : TutorError → String
  | unavailable model => "The tutor model " ++ Text.quoted model ++ " is not available"
  | invalidQuiz => "Invalid quiz"
  | invalidAnswer question =>
    "The answer of " ++ Text.quoted question ++ " is not one of the options"
  | emptyQuiz => "The quiz has no questions"

/-- A question with the options to choose from. -/
structure Question where
  question : String
  options : List String
  answer : String
  explanation : String
deriving DecidableEq, Repr

namespace Question

/-- The answer is one of the options. -/
def isValid (q : Question) : Bool := q.options.contains q.answer

/-- The given answer is the correct one. -/
def accepts (q : Question) (answer : String) : Bool := q.answer == answer

/-- Reads a question. -/
def ofDatum? (d : Datum) : Option Question :=
  match
    fieldValues?
      [⟨"question", .never⟩, ⟨"options", .never⟩, ⟨"correctAnswer", .never⟩,
        ⟨"explanation", .never⟩] d with
  | some [question, options, answer, explanation] => do
    let question ← required question text?
    let options ← required options (list? text?)
    let answer ← required answer text?
    let explanation ← required explanation text?
    some { question, options, answer, explanation }
  | _ => none

/-- Writes a question. -/
def toDatum (q : Question) : Datum :=
  .record
    [("question", .text q.question), ("options", .ofTexts q.options),
      ("correctAnswer", .text q.answer), ("explanation", .text q.explanation)]

end Question

/-- Accepts questions as a quiz: there are some, and the answer of each is one of its options. -/
def checkQuiz (questions : List Question) : Except TutorError (List Question) :=
  if questions.isEmpty then .error .emptyQuiz
  else
    match questions.find? fun q => !q.isValid with
    | some q => .error (.invalidAnswer q.question)
    | none => .ok questions

/-- Reads a quiz in JSON. -/
def readQuiz (s : String) : Except TutorError (List Question) :=
  match (Json.read? s).bind (list? Question.ofDatum?) with
  | some questions => checkQuiz questions
  | none => .error .invalidQuiz

/-- The schema of a value of a type. -/
def typeSchema (type : String) (more : List (String × Datum)) : Datum :=
  .record (("type", .text type) :: more)

/-- The schema of a quiz. -/
def quizSchema : Datum :=
  typeSchema "ARRAY"
    [("items", typeSchema "OBJECT"
      [("properties", .record
          [("question", typeSchema "STRING" []),
            ("options", typeSchema "ARRAY" [("items", typeSchema "STRING" [])]),
            ("correctAnswer", typeSchema "STRING" []),
            ("explanation", typeSchema "STRING" [])]),
        ("required", .ofTexts ["question", "options", "correctAnswer", "explanation"])])]

/-- The instruction that asks for a quiz. -/
def quizPrompt (topic : String) : String :=
  "Generate 3 multiple-choice questions about \"" ++ topic ++ "\" for a beginner network engineer."

end TrainingLab.Tutor
