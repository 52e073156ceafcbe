import TrainingLab.Terminal.Effect
import TrainingLab.Text.Words
import TrainingLab.Tutor.Quiz

/-
  A quiz at a terminal. Options have letters; the first character of a line is the answer.
-/

namespace TrainingLab.Terminal

open Tutor

/-- A quiz that waits for an answer. -/
structure QuizRun where
  current : Question
  later : List Question
  /-- The number of the current question, the first one being 1. -/
  number : Nat
  score : Nat
deriving DecidableEq, Repr

/-- The letter of the option at a position. -/
def optionLetter (position : Nat) : Char := Char.ofNat ('a'.toNat + position)

/-- The option that a line chooses. -/
def chosen? (options : List String) (answer : String) : Option String :=
  match (Text.trim answer).toList.head? with
  | some c => (options.mapIdx fun n o => (optionLetter n, o)).lookup c
  | none => none

/-- Shows a question and asks for its answer. -/
def askQuestion (number : Nat) (q : Question) : List Effect :=
  lines
    (["", toString number ++ ". " ++ q.question] ++
      q.options.mapIdx fun n o => "   " ++ (optionLetter n).toString ++ ") " ++ o) ++
  [.print "> "]

/-- Says whether an answer is right. -/
def judge (q : Question) (right : Bool) : Effect :=
  line
    (if right then "Correct! " ++ q.explanation
      else "The answer is: " ++ q.answer ++ ". " ++ q.explanation)

/-- Starts a quiz. Without questions it is over at once. -/
def startQuiz : List Question → List Effect × Option QuizRun
  | [] => (lines ["", "Score: 0/0"], none)
  | q :: rest => (askQuestion 1 q, some { current := q, later := rest, number := 1, score := 0 })

namespace QuizRun

/-- Takes the answer to the current question. -/
def take (r : QuizRun) (answer : String) : List Effect × Option QuizRun :=
  let right := r.current.accepts ((chosen? r.current.options answer).getD "")
  let score := if right then r.score + 1 else r.score
  match r.later with
  | [] =>
    ([judge r.current right] ++
      lines ["", "Score: " ++ toString score ++ "/" ++ toString r.number], none)
  | q :: rest =>
    ([judge r.current right] ++ askQuestion (r.number + 1) q,
      some { current := q, later := rest, number := r.number + 1, score })

/-- Takes an answer in a quiz that may be over. -/
def takeMore (s : List Effect × Option QuizRun) (answer : String) :
    List Effect × Option QuizRun :=
  match s with
  | (effects, some r) =>
    let (more, next) := r.take answer
    (effects ++ more, next)
  | (effects, none) => (effects, none)

/-- Leaves the current question and those behind it without an answer. -/
def giveUp (r : QuizRun) : List Effect :=
  ((r.current :: r.later).foldl (fun s _ => takeMore s "") ([], some r)).1

end QuizRun

end TrainingLab.Terminal
