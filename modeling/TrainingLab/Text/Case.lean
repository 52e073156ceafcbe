import TrainingLab.Text.CaseTable

/-
  Lower and upper case of a text. Single characters follow the case tables; a capital sigma
  becomes the final form at the end of a word.
-/

namespace TrainingLab.Text

/-- The characters a code point maps to: a listed expansion, else the image of its run, else
    itself. -/
def caseImage (expansions : List (Nat × List Nat)) (runs : Runs) (c : Char) : List Char :=
  match expansions.lookup c.toNat with
  | some image => image.map Char.ofNat
  | none =>
    match runs.image? c.toNat with
    | some n => [Char.ofNat n]
    | none => [c]

/-- Lower case of one character, regardless of its neighbours. -/
def lowerChar (c : Char) : List Char :=
  if c.toNat < 128 then [c.toLower] else caseImage lowerExpansions lowerRuns c

/-- Upper case of one character. -/
def upperChar (c : Char) : List Char :=
  if c.toNat < 128 then [c.toUpper] else caseImage upperExpansions upperRuns c

/-- Upper, lower or title case. -/
def isCased (c : Char) : Bool :=
  if c.toNat < 128 then c.isAlpha else casedRanges.holds c.toNat

/-- Passed over in the search for a cased neighbour. -/
def isCaseIgnorable (c : Char) : Bool :=
  if c.toNat < 128 then ['\x27', '.', ':', '^', '\x60'].contains c
  else caseIgnorableRanges.holds c.toNat

/-- The first character that is not passed over has a case. -/
def meetsCased (cs : List Char) : Bool :=
  match cs.dropWhile isCaseIgnorable with
  | [] => false
  | c :: _ => isCased c

/-- Lowers the characters after `before`, which is what precedes them, nearest first. A capital
    sigma with a cased character before it and none after it is final. -/
def lowerFrom (before : List Char) : List Char → List Char
  | [] => []
  | c :: rest =>
    let image :=
      if c = 'Σ' then [if meetsCased before && !meetsCased rest then 'ς' else 'σ']
      else lowerChar c
    image ++ lowerFrom (c :: before) rest

/-- Lower case of a text. -/
def lower (s : String) : String := String.ofList (lowerFrom [] s.toList)

/-- Upper case of a text. -/
def upper (s : String) : String := String.ofList (s.toList.flatMap upperChar)

/-- Equal up to the case of ASCII letters. -/
def equalIgnoringCase (s t : String) : Bool :=
  s.toList.map Char.toLower == t.toList.map Char.toLower

end TrainingLab.Text
