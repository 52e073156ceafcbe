import TrainingLab.Datum.Basic
import TrainingLab.Text.Words
import TrainingLab.Toml.Number
import TrainingLab.Toml.Token

/-
  Reading TOML. A document is a list of lines: settings of keys, and headers that say which table
  the next settings belong to. Two settings of one key give a record with two fields of one name;
  what that means is up to the reader of the record.
-/

namespace TrainingLab.Toml

/-! ## Keys -/

/-- Settings of one table. A field is a value, or a table that dotted keys have opened. -/
inductive Setting
  | value (d : Datum)
  | opened (fields : List (String × Setting))

mutual

/-- The value of a setting. -/
def Setting.datum : Setting → Datum
  | .value d => d
  | .opened fields => .record (settingFields fields)

/-- The values of settings. -/
def settingFields : List (String × Setting) → List (String × Datum)
  | [] => []
  | (name, s) :: rest => (name, s.datum) :: settingFields rest

end

/-- Replaces the first field of a name. -/
def replaceFirst (name : String) (s : Setting) :
    List (String × Setting) → List (String × Setting)
  | [] => []
  | e :: rest => if e.1 = name then (name, s) :: rest else e :: replaceFirst name s rest

/-- Adds the setting of a key. A dotted key goes into the table that its first part opened, and
    not into a value that stands there. -/
def addSetting : List String → Datum → List (String × Setting) → Option (List (String × Setting))
  | [], _, _ => none
  | [name], d, fields => some (fields ++ [(name, .value d)])
  | name :: rest, d, fields =>
    match fields.lookup name with
    | none => (addSetting rest d []).map fun inner => fields ++ [(name, .opened inner)]
    | some (.opened inner) =>
      (addSetting rest d inner).map fun inner => replaceFirst name (.opened inner) fields
    | some (.value _) => none

/-! ## Cursor -/

/-- Without blanks at the start. -/
def skipBlanks : List Token → List Token
  | .blanks _ :: ts => ts
  | ts => ts

/-- Without blanks, comments and line ends at the start. A comment goes up to a line end. -/
def skipLines : List Token → List Token
  | .blanks _ :: ts => skipLines ts
  | .newline :: ts => skipLines ts
  | .comment :: ts => skipLines ts
  | ts => ts

/-- Nothing more on the line but a comment. -/
def endLine? : List Token → Option (List Token)
  | [] => some []
  | .newline :: ts => some ts
  | .comment :: .newline :: ts => some ts
  | [.comment] => some []
  | _ => none

/-- A key: its parts with points between them, and the blanks around each. Where `next` is set a
    part has to come, else a point may. -/
def takePath? (back : List String) (next : Bool) : List Token → Option (List String × List Token)
  | [] => if next then none else some (back.reverse, [])
  | t :: ts =>
    match next, t with
    | _, .blanks _ => takePath? back next ts
    | true, .word s => takePath? (s :: back) false ts
    | true, .text s false => takePath? (s :: back) false ts
    | true, _ => none
    | false, .period => takePath? back true ts
    | false, t => some (back.reverse, t :: ts)

/-! ## Numbers and dates -/

/-- The rest of a number: an exponent behind its letter, perhaps with a plus sign, or nothing. -/
def takeExponent? (m : Mantissa) (ts : List Token) : Option (Datum × List Token) :=
  let scaled (e : Int) (ts : List Token) := (m.scaled? e).map fun n => (Datum.number n, ts)
  match m.rest with
  | [] => scaled 0 ts
  | c :: cs =>
    if c = 'e' ∨ c = 'E' then
      if cs.isEmpty then
        match ts with
        | .plus :: .word s :: ts =>
          match takeDigits? 10 true {} s.toList with
          | some (digits, []) => scaled (valueOf 10 digits) ts
          | _ => none
        | _ => none
      else (exponent? cs).bind fun e => scaled e ts
    else none

/-- A number that starts with a word. -/
def takeNumber? (word : List Char) (ts : List Token) : Option (Datum × List Token) :=
  let whole (base : Nat) (cs : List Char) := (integer? base cs).map fun n => (Datum.number n, ts)
  match word with
  | '0' :: 'x' :: cs => whole 16 cs
  | '0' :: 'o' :: cs => whole 8 cs
  | '0' :: 'b' :: cs => whole 2 cs
  | _ =>
    if word.contains 'e' || word.contains 'E' then
      (mantissa? word none).bind fun m => takeExponent? m ts
    else
      match ts with
      | .period :: .word s :: ts =>
        (mantissa? word (some s.toList)).bind fun m => takeExponent? m ts
      | .period :: _ => none
      | _ =>
        match special? word with
        | some n => some (.number n, ts)
        | none => whole 10 word

/-- Passes a word behind a mark, if the mark is there. -/
def passMarked? (mark : Token) (ts : List Token) : Option (List Token) :=
  match ts with
  | t :: .word _ :: rest => some (if t = mark then rest else ts)
  | t :: _ => if t = mark then none else some ts
  | [] => some []

/-- The rest of a time behind the hour's colon: minutes, seconds, and perhaps a fraction and an
    offset. -/
def takeTime? : List Token → Option (List Token)
  | .word _ :: .colon :: .word _ :: ts => do
    let ts ← passMarked? .period ts
    let ts ← passMarked? .plus ts
    passMarked? .colon ts
  | _ => none

/-- The rest of a date: a time may follow behind one space. -/
def takeDate? (ts : List Token) : Option (List Token) :=
  let ts := match ts with
    | .blanks true :: .word _ :: ts => ts
    | ts => ts
  match ts with
  | .colon :: ts => takeTime? ts
  | ts => some ts

/-- What every date stands for: a record that says so and nothing else. -/
def date : Datum := .record [("date", .null)]

/-- The word begins a date: it has a `t`, or a minus that is neither its first character nor in
    an exponent. -/
def beginsDate (word : List Char) : Bool :=
  word.contains 'T' || word.contains 't' ||
    (word.tail.contains '-' && !Text.occursIn ['e', '-'] word && !Text.occursIn ['E', '-'] word)

/-- A number or a date that starts with a word. -/
def takeNumberOrDate? (word : List Char) (ts : List Token) : Option (Datum × List Token) :=
  if beginsDate word then (takeDate? ts).map fun ts => (date, ts)
  else
    match ts with
    | .colon :: ts => (takeTime? ts).map fun ts => (date, ts)
    | ts => takeNumber? word ts

/-- A value that starts with a word. -/
def takeWord? (s : String) (ts : List Token) : Option (Datum × List Token) :=
  if s = "true" then some (.bool true, ts)
  else if s = "false" then some (.bool false, ts)
  else if s = "inf" ∨ s = "nan" then takeNumberOrDate? s.toList ts
  else
    match s.toList with
    | c :: cs => if c = '-' ∨ c.isDigit then takeNumberOrDate? (c :: cs) ts else none
    | [] => none

/-! ## Values -/

mutual

/-- A value, and what follows it. Every value takes at least one token, so as many steps as there
    are tokens are enough. -/
def takeValue? : Nat → List Token → Option (Datum × List Token)
  | 0, _ => none
  | steps + 1, ts =>
    match ts with
    | .text s _ :: ts => some (.text s, ts)
    | .word s :: ts => takeWord? s ts
    | .plus :: .word s :: ts => takeNumber? s.toList ts
    | .openList :: ts => takeItems? steps [] ts
    | .openTable :: ts =>
      match skipBlanks ts with
      | .closeTable :: ts => some (.record [], ts)
      | ts => takeFields? steps [] ts
    | _ => none

/-- The items of a list, and its end. A comma may stand before the end. -/
def takeItems? : Nat → List Datum → List Token → Option (Datum × List Token)
  | 0, _, _ => none
  | steps + 1, back, ts =>
    match skipLines ts with
    | .closeList :: ts => some (.list back.reverse, ts)
    | ts => do
      let (d, ts) ← takeValue? steps ts
      match skipLines ts with
      | .comma :: ts => takeItems? steps (d :: back) ts
      | .closeList :: ts => some (.list (d :: back).reverse, ts)
      | _ => none

/-- The fields of a table within braces, and its end. No comma stands before the end. -/
def takeFields? : Nat → List (String × Setting) → List Token → Option (Datum × List Token)
  | 0, _, _ => none
  | steps + 1, fields, ts => do
    let (path, ts) ← takePath? [] true ts
    match ts with
    | .equals :: ts =>
      let (d, ts) ← takeValue? steps (skipBlanks ts)
      let fields ← addSetting path d fields
      match skipBlanks ts with
      | .closeTable :: ts => some (.record (settingFields fields), ts)
      | .comma :: ts => takeFields? steps fields (skipBlanks ts)
      | _ => none
    | _ => none

end

/-! ## Lines -/

/-- A header with the settings below it. The settings before the first header have none. -/
structure Table where
  path : List String
  /-- The header adds a table to a list. -/
  isItem : Bool
  fields : List (String × Setting) := []

/-- The header of a table, behind its brackets. -/
def takeHeader? (isItem : Bool) (ts : List Token) : Option (Table × List Token) := do
  let (path, ts) ← takePath? [] true ts
  match isItem, ts with
  | false, .closeList :: ts => (endLine? (skipBlanks ts)).map fun ts => ({ path, isItem }, ts)
  | true, .closeList :: .closeList :: ts =>
    (endLine? (skipBlanks ts)).map fun ts => ({ path, isItem }, ts)
  | _, _ => none

/-- The setting of a key. -/
def takeSetting? (ts : List Token) : Option (List String × Datum × List Token) := do
  let (path, ts) ← takePath? [] true ts
  match ts with
  | .equals :: ts =>
    let (d, ts) ← takeValue? (2 * ts.length + 1) (skipBlanks ts)
    let ts ← endLine? (skipBlanks ts)
    some (path, d, ts)
  | _ => none

/-- The tables of a document, where `back` (latest first) come before the present one. Every line
    takes at least one token. -/
def takeTables? : Nat → List Table → Table → List Token → Option (List Table)
  | 0, _, _, _ => none
  | steps + 1, back, table, ts =>
    match skipLines ts with
    | [] => some (table :: back).reverse
    | .openList :: .openList :: ts => do
      let (next, ts) ← takeHeader? true ts
      takeTables? steps (table :: back) next ts
    | .openList :: ts => do
      let (next, ts) ← takeHeader? false ts
      takeTables? steps (table :: back) next ts
    | ts => do
      let (path, d, ts) ← takeSetting? ts
      let fields ← addSetting path d table.fields
      takeTables? steps back { table with fields } ts

/-! ## Nested tables -/

/-- A table of the document with those below it. Headers may name the tables below before the
    table itself. -/
inductive Tree
  | table (hasHeader : Bool) (fields : List (String × Datum)) (below : List (String × Tree))
  | list (back : List Tree)
deriving Inhabited

mutual

/-- The value of a table or of a list of tables. -/
def Tree.datum : Tree → Datum
  | .table _ fields below => .record (fields ++ treeFields below)
  | .list back => .list (treeItems back).reverse

/-- The values of the tables below a table. -/
def treeFields : List (String × Tree) → List (String × Datum)
  | [] => []
  | (name, t) :: rest => (name, t.datum) :: treeFields rest

/-- The values of the tables of a list. -/
def treeItems : List Tree → List Datum
  | [] => []
  | t :: rest => t.datum :: treeItems rest

end

/-- Replaces or adds the tree of a name. -/
def putTree (name : String) (t : Tree) : List (String × Tree) → List (String × Tree)
  | [] => [(name, t)]
  | e :: rest => if e.1 = name then (name, t) :: rest else e :: putTree name t rest

/-- Puts a table with a header where the last part of its path leads. -/
def placeTable? (isItem : Bool) (fields : List (String × Datum)) : Option Tree → Option Tree
  | none => some (if isItem then .list [.table true fields []] else .table true fields [])
  | some (.table false _ below) => if isItem then none else some (.table true fields below)
  | some (.table true _ _) => none
  | some (.list back) => if isItem then some (.list (.table true fields [] :: back)) else none

/-- Adds a table at a path. A path leads through a list into its last table. -/
def addTable? (isItem : Bool) (fields : List (String × Datum)) :
    List String → Option Tree → Option Tree
  | [], t => placeTable? isItem fields t
  | name :: rest, t =>
    match t with
    | none => (addTable? isItem fields rest none).map fun b => .table false [] [(name, b)]
    | some (.table h given below) =>
      (addTable? isItem fields rest (below.lookup name)).map fun b =>
        .table h given (putTree name b below)
    | some (.list (.table h given below :: back)) =>
      (addTable? isItem fields rest (below.lookup name)).map fun b =>
        .list (.table h given (putTree name b below) :: back)
    | some (.list _) => none

/-- Adds a table of the document. -/
def addTable (t : Tree) (table : Table) : Option Tree :=
  addTable? table.isItem (settingFields table.fields) table.path (some t)

/-- Reads a document. -/
def read? (s : String) : Option Datum := do
  let ts ← tokens? s
  let tables ← takeTables? (ts.length + 1) [] { path := [], isItem := false } ts
  let tree ← tables.foldlM addTable (.table false [] [])
  some tree.datum

end TrainingLab.Toml
