import TrainingLab.Text.Unprintable

/-
  The quoted form of a text in messages: in double quotes, on one line, and without characters
  that cannot be seen.
-/

namespace TrainingLab.Text

/-- The escape of a code point by its number, in lower-case hexadecimal without padding. -/
def numericEscape (n : Nat) : List Char :=
  ['\\', 'u', '\x7b'] ++ Nat.toDigits 16 n ++ ['\x7d']

/-- A character inside double quotes. -/
def quotedChar (c : Char) : List Char :=
  if c = '\x00' then ['\\', '0']
  else if c = '\t' then ['\\', 't']
  else if c = '\r' then ['\\', 'r']
  else if c = '\n' then ['\\', 'n']
  else if c = '\x22' then ['\\', '\x22']
  else if c = '\\' then ['\\', '\\']
  else if isUnprintable c then numericEscape c.toNat
  else [c]

/-- The text in double quotes. -/
def quoted (s : String) : String :=
  String.ofList ('\x22' :: (s.toList.flatMap quotedChar ++ ['\x22']))

end TrainingLab.Text
