import TrainingLab.Text.Words

/-
  The state of a console: the mode, and the stack of objects that are being edited. The stack is a
  list with the innermost frame first.
-/

namespace TrainingLab

/-- A console mode. Every family uses some of them. -/
inductive Mode
  | user
  | privileged
  | config
  | configInterface
  | configRouter
  | configVlan
  | edit
deriving DecidableEq, Repr, Inhabited

/-- What kind of object a frame stands for. -/
inductive FrameKind
  | interface
  | zone
  | policyObject
  | routeProtocol
  | staticRoute
  | vlan
  | configSection
deriving DecidableEq, Repr

/-- One level of nesting: an object that is being edited, or a section of the configuration. -/
structure Frame where
  kind : FrameKind
  name : String
deriving DecidableEq, Repr

/-- The lines that a printed text adds to a history: its lines, or one empty line for the empty
    text. -/
def logLines (text : String) : List String := if text.isEmpty then [""] else Text.lines text

end TrainingLab
