import TrainingLab.Json.Token

/-
  Reading JSON. A machine goes over the tokens once, with a stack of the lists and records that
  are still open. Nothing beyond the standard is taken: no comment, no comma before the end, no
  second document.
-/

namespace TrainingLab.Json

/-- A list or a record that is open; what it holds already, latest first. A record waits for the
    value of a field. -/
inductive Open
  | list (back : List Datum)
  | record (back : List (Literal × Datum)) (name : Literal)

/-- What may come next. -/
inductive Expected
  | value
  /-- The first item of a list, or its end. -/
  | item
  /-- The first field of a record, or its end. -/
  | firstField
  | field (back : List (Literal × Datum))
  | colon (back : List (Literal × Datum)) (name : Literal)
  /-- What follows a complete value. -/
  | rest (d : Datum)

/-- The value of a text. -/
def textOf (l : Literal) : Datum :=
  match l.value with
  | some s => .text s
  | none => .broken

/-- The value of a record. It has none if the name of a field has none. -/
def recordOf (fields : List (Literal × Datum)) : Datum :=
  match fields.mapM fun (name, d) => name.value.map fun s => (s, d) with
  | some named => .record named (fields.all fun (name, _) => !name.isEscapedNumber)
  | none => .broken

/-- The value that a token is by itself. -/
def scalar? : Token → Option Datum
  | .null => some .null
  | .bool b => some (.bool b)
  | .number n => some (.number n)
  | .text l => some (textOf l)
  | _ => none

/-- A value starts here. -/
def startValue (stack : List Open) (token : Token) : Option (Expected × List Open) :=
  match token with
  | .openList => some (.item, stack)
  | .openRecord => some (.firstField, stack)
  | token => (scalar? token).map fun d => (.rest d, stack)

/-- A token in a state: the next state. A list goes onto the stack with its first item. -/
def readStep (expected : Expected) (stack : List Open) (token : Token) :
    Option (Expected × List Open) :=
  match expected, stack, token with
  | .value, stack, token => startValue stack token
  | .item, stack, .closeList => some (.rest (.list []), stack)
  | .item, stack, token => startValue (.list [] :: stack) token
  | .firstField, stack, .closeRecord => some (.rest (.record []), stack)
  | .firstField, stack, .text name => some (.colon [] name, stack)
  | .field back, stack, .text name => some (.colon back name, stack)
  | .colon back name, stack, .colon => some (.value, .record back name :: stack)
  | .rest d, .list back :: stack, .comma => some (.value, .list (d :: back) :: stack)
  | .rest d, .list back :: stack, .closeList => some (.rest (.list (d :: back).reverse), stack)
  | .rest d, .record back name :: stack, .comma => some (.field ((name, d) :: back), stack)
  | .rest d, .record back name :: stack, .closeRecord =>
    some (.rest (recordOf ((name, d) :: back).reverse), stack)
  | _, _, _ => none

/-- The value that the tokens complete. -/
def readFrom : Expected → List Open → List Token → Option Datum
  | .rest d, [], [] => some d
  | _, _, [] => none
  | expected, stack, token :: tokens =>
    match readStep expected stack token with
    | some (expected, stack) => readFrom expected stack tokens
    | none => none

/-- Reads a document. -/
def read? (s : String) : Option Datum := (tokens? s).bind (readFrom .value [])

end TrainingLab.Json
