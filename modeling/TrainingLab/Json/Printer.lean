import TrainingLab.Datum.Basic
import TrainingLab.Text.Decimal
import TrainingLab.Text.Words

/-
  Writing JSON, without blanks. What JSON has no form for is written as `null`.
-/

namespace TrainingLab.Json

/-- A character inside of a text. -/
def escape (c : Char) : List Char :=
  if c = '\x22' then ['\\', '\x22']
  else if c = '\\' then ['\\', '\\']
  else if c = '\n' then ['\\', 'n']
  else if c = '\r' then ['\\', 'r']
  else if c = '\t' then ['\\', 't']
  else if c = '\x08' then ['\\', 'b']
  else if c = '\x0c' then ['\\', 'f']
  else if c.toNat < 0x20 then ['\\', 'u', '0', '0'] ++ (Text.hexByte c.toNat).toList
  else [c]

/-- A text in double quotes. -/
def quoted (s : String) : String :=
  String.ofList ('\x22' :: s.toList.flatMap escape ++ ['\x22'])

/-- A number. -/
def numeralText : Numeral → String
  | .integer n => toString n
  | .decimal negative digits exponent =>
    (if negative then "-" else "") ++ toString digits ++ "e" ++ toString exponent
  | .infinite _ => "null"
  | .undefined => "null"

mutual

/-- The text of a document. -/
def print : Datum → String
  | .null => "null"
  | .bool b => if b then "true" else "false"
  | .number n => numeralText n
  | .text s => quoted s
  | .broken => "null"
  | .list items => "[" ++ Text.joinWith "," (printItems items) ++ "]"
  | .record fields _ => "\x7b" ++ Text.joinWith "," (printFields fields) ++ "\x7d"

/-- The texts of the items of a list. -/
def printItems : List Datum → List String
  | [] => []
  | d :: rest => print d :: printItems rest

/-- The texts of the fields of a record. -/
def printFields : List (String × Datum) → List String
  | [] => []
  | (name, d) :: rest => (quoted name ++ ":" ++ print d) :: printFields rest

end

end TrainingLab.Json
