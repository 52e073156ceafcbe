import TrainingLab.Device.Prompt
import TrainingLab.Reference
import TrainingLab.Text.Alphanumeric
import TrainingLab.Tutor.Glossary
import TrainingLab.Tutor.Quiz

/-
  The tutor that needs no language model. It answers from the glossary and the command references,
  and makes a quiz of three questions about any topic.
-/

namespace TrainingLab.Tutor

/-- The vendors whose commands are compared in a quiz. -/
def quizVendors : List Vendor := [.cisco, .juniper, .fortinet, .paloAlto]

/-- The vendors whose commands the tutor knows. -/
def vendors : List Vendor := quizVendors ++ [.internet]

/-- The commands of a vendor. -/
def commandsOf (v : Vendor) : List String := (Reference.ofFamily v.family).commands

/-- The category of a command of a vendor. -/
def category? (v : Vendor) (command : String) : Option String :=
  ((Reference.ofFamily v.family).find? fun c => c.commands.contains command).map
    CommandCategory.title

/-! ## Answers -/

/-- The longest of several texts in bytes of UTF-8, the last one of equally long ones. -/
def longest? (l : List String) : Option String :=
  l.foldl
    (fun best s =>
      match best with
      | none => some s
      | some b => if b.utf8ByteSize ≤ s.utf8ByteSize then some s else some b)
    none

/-- Explains the longest command of several words in a message. -/
def commandHint? (message : String) : Option String :=
  (longest? ((vendors.flatMap commandsOf).filter fun c =>
    Text.hasChar ' ' c && Text.contains c message)).map fun command =>
      let known := vendors.filterMap fun v =>
        (category? v command).map fun title => v.name ++ " (" ++ title ++ ")"
      "\x60" ++ command ++ "\x60 is available on " ++ Text.joinWith ", " known ++ "."

/-- The words of letters and digits, where `word` (backwards) has been read of the first one. -/
def lettersFrom (word : List Char) : List Char → List (List Char)
  | [] => Text.flushWord word []
  | c :: cs =>
    if Text.isAlphanumeric c then lettersFrom (c :: word) cs
    else Text.flushWord word (lettersFrom [] cs)

/-- The glossary entries of the terms that are words of a message. -/
def explanations (message : String) : List String :=
  let words := (lettersFrom [] message.toList).map String.ofList
  (glossary.entries.filter fun (term, _) => words.contains term).map fun (term, text) =>
    "**" ++ Text.upper term ++ "**: " ++ text

/-- What the tutor says when it knows nothing. -/
def noResponse : String := "I'm sorry, I couldn't generate a response."

/-- The answer to a message. -/
def reply (message : String) : String :=
  let message := Text.lower message
  let parts := (commandHint? message).toList ++ explanations message
  if parts.isEmpty then
    noResponse ++ " Try asking about one of these topics: " ++
      Text.joinWith ", " glossary.keys ++ "."
  else Text.joinWith "\n\n" parts

/-! ## Quizzes -/

/-- The commands that only one of the vendors has, each with it. -/
def uniqueCommands : List (Vendor × String) :=
  (quizVendors.flatMap fun v => (commandsOf v).map fun c => (v, c)).filter fun (_, c) =>
    (quizVendors.filter fun v => (commandsOf v).contains c).length == 1

/-- Asks for the vendor of a command that no other has: of the first that contains one of the
    words, else of one picked by the seed. -/
def vendorQuestion? (words : List String) (seed : Nat) : Option Question :=
  let chosen :=
    (uniqueCommands.find? fun (_, c) => words.any fun w => Text.contains w c).or
      uniqueCommands[seed % uniqueCommands.length]?
  chosen.map fun (v, command) =>
    { question := "Which vendor uses the command \x60" ++ command ++ "\x60?"
      options := quizVendors.map Vendor.name
      answer := v.name
      explanation :=
        "\x60" ++ command ++ "\x60 belongs to the " ++ (category? v command).getD "registered" ++
          " commands of " ++ v.name ++ "." }

/-- Up to the first point that a space follows. -/
def firstSentence (cs : List Char) : List Char :=
  match cs with
  | [] => []
  | '.' :: ' ' :: _ => ['.']
  | c :: cs => c :: firstSentence cs

/-- The first sentence of the glossary entry at a position. -/
def statement? (position : Nat) : Option String :=
  glossary.values[position]?.map fun text => String.ofList (firstSentence text.toList)

/-- The list turned to the left. -/
def rotate {α : Type} (n : Nat) (l : List α) : List α := l.drop n ++ l.take n

/-- Asks for the statement about a term: the first term that is one of the words, else one picked
    by the seed. The wrong options are statements about every third term behind it. -/
def glossaryQuestion? (words : List String) (seed : Nat) : Option Question :=
  let terms := glossary.keys
  let position := (terms.findIdx? fun t => words.contains t).getD (seed % terms.length)
  match glossary.entries[position]? with
  | none => none
  | some (term, text) =>
    let options :=
      (List.range 4).filterMap fun i => statement? ((position + 3 * i) % terms.length)
    options.head?.map fun answer =>
      { question := "Which statement about " ++ Text.upper term ++ " is correct?"
        options := rotate (seed % options.length) options
        answer
        explanation := text }

/-- A router while it is being configured. -/
def configuredRouter (v : Vendor) : Device :=
  let d : Device := { id := "quiz", name := "R1", kind := .router, vendor := v }
  match v.family with
  | .cisco => d.enter .config
  | .paloAlto => d.enter .config
  | .juniper => d.enter .edit
  | _ => d.push .configSection "system interface"

/-- The prompt of a vendor's router while it is being configured, in one line. -/
def configuredPrompt (v : Vendor) : String :=
  String.ofList ((configuredRouter v).prompt.toList.map fun c => if c = '\n' then ' ' else c)

/-- Asks for the prompt of a vendor picked by the seed. -/
def promptQuestion? (seed : Nat) : Option Question :=
  quizVendors[seed % quizVendors.length]?.map fun v =>
    { question :=
        "Which prompt does a " ++ v.name ++
          " device named R1 show while it is being configured?"
      options := quizVendors.map configuredPrompt
      answer := configuredPrompt v
      explanation :=
        v.name ++ " shows \x60" ++ configuredPrompt v ++ "\x60 while it is being configured." }

/-- The words of a topic that have three bytes of UTF-8 or more. -/
def topicWords (topic : String) : List String :=
  (Text.words (Text.lower topic)).filter fun w => decide (3 ≤ w.utf8ByteSize)

/-- A quiz about a topic. The length of the topic, in bytes of UTF-8, is the seed. -/
def quiz (topic : String) : Except TutorError (List Question) :=
  let words := topicWords topic
  let seed := topic.utf8ByteSize
  checkQuiz
    ([vendorQuestion? words seed, glossaryQuestion? words seed, promptQuestion? seed].filterMap id)

end TrainingLab.Tutor
