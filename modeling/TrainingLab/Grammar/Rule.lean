import TrainingLab.Grammar.Pattern
import TrainingLab.Device.Console

/-
  Command tables. A table is an ordered list of rules; the first rule that applies and matches the
  line completely decides what the line means.
-/

namespace TrainingLab.Grammar

/-- Where on the stack of edited objects a rule applies. -/
inductive Scope
  | anywhere
  | top
  | frame (kind : FrameKind)
  /-- Directly inside the section. -/
  | inSection (name : String)
  /-- Inside an object of the section. -/
  | inObject (name : String)
deriving DecidableEq, Repr

/-- The frame is the section of that name. -/
def isSection (name : String) (f : Frame) : Bool := f.kind == .configSection && f.name == name

/-- The scope takes in the stack, innermost frame first. -/
def Scope.covers : Scope → List Frame → Bool
  | anywhere, _ => true
  | top, context => context.isEmpty
  | frame kind, context => context.head?.any fun f => f.kind == kind
  | inSection name, context => context.head?.any (isSection name)
  | inObject name, object :: parent :: _ => object.kind != .configSection && isSection name parent
  | inObject _, _ => false

/-- One entry of a table: where it applies, what it matches, and what the line then means. No
    modes stand for every mode. -/
structure Rule (α : Type) where
  modes : List Mode
  scope : Scope
  pattern : Pattern
  meaning : Captures → α

namespace Rule

variable {α : Type}

/-- A rule from the text of its pattern, regardless of the edited objects. -/
def on (modes : List Mode) (pattern : String) (meaning : Captures → α) : Rule α :=
  ⟨modes, .anywhere, Pattern.ofText pattern, meaning⟩

/-- The rule restricted to a scope. -/
def within (r : Rule α) (scope : Scope) : Rule α := { r with scope }

/-- The rule applies in the mode and to the edited objects. -/
def applies (r : Rule α) (mode : Mode) (context : List Frame) : Bool :=
  (r.modes.isEmpty || r.modes.contains mode) && r.scope.covers context

end Rule

/-- What a table makes of a line. -/
inductive Verdict (α : Type)
  | done (meaning : α)
  | incomplete
  | unknown
deriving DecidableEq, Repr

/-- A rule that expects more turns an unknown line into an incomplete one. -/
def Verdict.orIncomplete {α : Type} : Verdict α → Verdict α
  | unknown => incomplete
  | v => v

/-- The meaning of the first rule that applies and matches completely. -/
def dispatch {α : Type} (mode : Mode) (context : List Frame) (tokens : List String) :
    List (Rule α) → Verdict α
  | [] => .unknown
  | r :: rest =>
    if r.applies mode context then
      match r.pattern.matches tokens with
      | .full caps => .done (r.meaning caps)
      | .incomplete => (dispatch mode context tokens rest).orIncomplete
      | .none => dispatch mode context tokens rest
    else dispatch mode context tokens rest

end TrainingLab.Grammar
