import TrainingLab.Text.Blank

/-
  Cutting texts into words, lines and parts, and putting them together again. Every function on
  `String` is the function of the same name on the characters.
-/

namespace TrainingLab.Text

/-! ## Words -/

/-- Puts a word in front of the words that follow it, unless it is empty. The word is kept
    backwards while it is read. -/
def flushWord (word : List Char) (rest : List (List Char)) : List (List Char) :=
  if word.isEmpty then rest else word.reverse :: rest

/-- The words of a text, where `word` (backwards) has been read of the first one. -/
def wordsFrom (word : List Char) : List Char → List (List Char)
  | [] => flushWord word []
  | c :: cs => if isBlank c then flushWord word (wordsFrom [] cs) else wordsFrom (c :: word) cs

/-- The maximal pieces without white space, in order. -/
def words (s : String) : List String := (wordsFrom [] s.toList).map String.ofList

/-- The texts one after the other, with the separator between them. -/
def joinWith (separator : String) : List String → String
  | [] => ""
  | [s] => s
  | s :: t :: rest => s ++ separator ++ joinWith separator (t :: rest)

/-! ## Margins -/

/-- Drops the characters of the class from the end. -/
def dropEndWhile (p : Char → Bool) (cs : List Char) : List Char := (cs.reverse.dropWhile p).reverse

/-- Without the white space at the start. -/
def trimStart (s : String) : String := String.ofList (s.toList.dropWhile isBlank)

/-- Without the white space at both ends. -/
def trim (s : String) : String := String.ofList (dropEndWhile isBlank (s.toList.dropWhile isBlank))

/-- Without the copies of `c` at both ends. -/
def dropAround (c : Char) (s : String) : String :=
  String.ofList (dropEndWhile (· == c) (s.toList.dropWhile (· == c)))

/-- Without double quotes at both ends. -/
def unquote (s : String) : String := dropAround '\x22' s

/-- Filled with spaces up to the width; a longer text stays as it is. -/
def padRight (width : Nat) (s : String) : String :=
  s ++ String.ofList (List.replicate (width - s.length) ' ')

/-- Columns of fixed widths with a space behind each, and a last one as wide as its text. -/
def columns (cells : List (Nat × String)) (last : String) : String :=
  cells.foldr (fun (width, s) rest => padRight width s ++ " " ++ rest) last

/-- Filled with zeros in front up to the width. -/
def padZero (width : Nat) (s : String) : String :=
  String.ofList (List.replicate (width - s.length) '0') ++ s

/-! ## Lines -/

/-- A line, read backwards, ends before a carriage return that precedes the line feed. -/
def endLine : List Char → List Char
  | '\r' :: cs => cs.reverse
  | cs => cs.reverse

/-- The lines of a text, where `line` (backwards) has been read of the first one. -/
def linesFrom (line : List Char) : List Char → List (List Char)
  | [] => if line.isEmpty then [] else [line.reverse]
  | c :: cs => if c = '\n' then endLine line :: linesFrom [] cs else linesFrom (c :: line) cs

/-- The lines of a text. A line feed ends a line, so none is left open after the last one. -/
def lines (s : String) : List String := (linesFrom [] s.toList).map String.ofList

/-! ## Parts -/

/-- The characters before and after the first one of the class. -/
def cutFirst (p : Char → Bool) : List Char → Option (List Char × List Char)
  | [] => none
  | c :: cs => if p c then some ([], cs) else (cutFirst p cs).map fun (a, b) => (c :: a, b)

/-- The parts before and after the first character of the class. -/
def splitFirst? (p : Char → Bool) (s : String) : Option (String × String) :=
  (cutFirst p s.toList).map fun (a, b) => (String.ofList a, String.ofList b)

/-- Up to and including the last `c`, and what follows it. -/
def splitAfterLast (c : Char) (s : String) : String × String :=
  let back := s.toList.reverse
  (String.ofList (back.dropWhile (· != c)).reverse, String.ofList (back.takeWhile (· != c)).reverse)

/-- The text begins with `start`. -/
def begins (start s : String) : Bool := start.toList.isPrefixOf s.toList

/-- What follows `start` at the beginning of the text. -/
def afterStart? : List Char → List Char → Option (List Char)
  | [], cs => some cs
  | _ :: _, [] => none
  | a :: as, c :: cs => if a = c then afterStart? as cs else none

/-- What precedes the ending of the characters. -/
def beforeEnd? (ending cs : List Char) : Option (List Char) :=
  (afterStart? ending.reverse cs.reverse).map List.reverse

/-- The pattern stands somewhere in the characters. -/
def occursIn (pattern : List Char) : List Char → Bool
  | [] => pattern.isEmpty
  | c :: cs => pattern.isPrefixOf (c :: cs) || occursIn pattern cs

/-- The part stands somewhere in the text. -/
def contains (part s : String) : Bool := occursIn part.toList s.toList

/-- The text has the character. -/
def hasChar (c : Char) (s : String) : Bool := s.toList.contains c

end TrainingLab.Text
