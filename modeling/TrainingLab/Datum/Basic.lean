import TrainingLab.Datum.Numeral

/-
  Documents as trees: what a data format writes down, before anything is known about its meaning.
  A record keeps its fields in order and may name one twice; what that means is up to its reader.
-/

namespace TrainingLab

/-- A document, or a part of one. -/
inductive Datum
  | null
  | bool (b : Bool)
  | number (n : Numeral)
  | text (s : String)
  /-- A text or a record that is written correctly but names half of a surrogate pair, in the text
      or in the name of a field, and so has no value. -/
  | broken
  | list (items : List Datum)
  /-- Fields by their names. The names that are numbers are written in plain digits, or some digit
      is written as an escape. -/
  | record (fields : List (String × Datum)) (plainNumbers : Bool := true)
deriving Inhabited

namespace Datum

/-! ## Plain values -/

/-- A text. -/
def text? : Datum → Option String
  | text s => some s
  | _ => none

/-- A truth value. -/
def bool? : Datum → Option Bool
  | bool b => some b
  | _ => none

/-- A whole number from zero to below the bound. -/
def natBelow? (bound : Nat) : Datum → Option Nat
  | number (.integer n) => if 0 ≤ n ∧ n < bound then some n.toNat else none
  | _ => none

/-- A number of 16 bits. -/
def uint16? (d : Datum) : Option UInt16 := (d.natBelow? UInt16.size).map UInt16.ofNat

/-- A number of 32 bits. -/
def uint32? (d : Datum) : Option UInt32 := (d.natBelow? UInt32.size).map UInt32.ofNat

/-- A number with a finite value. -/
def finite? : Datum → Option Numeral
  | number n => if n.isFinite then some n else none
  | _ => none

/-- Nothing, or a value. -/
def optional? {α : Type} (read : Datum → Option α) : Datum → Option (Option α)
  | null => some none
  | d => (read d).map some

/-- A list of values. -/
def list? {α : Type} (read : Datum → Option α) : Datum → Option (List α)
  | list items => items.mapM read
  | _ => none

/-- The values of a record by their names, in order. -/
def entries? {α : Type} (read : Datum → Option α) : Datum → Option (List (String × α))
  | record fields _ => fields.mapM fun (name, d) => (read d).map fun a => (name, a)
  | _ => none

/-- The values of a record by its names, which are numbers in plain digits. -/
def numbered? {ι α : Type} (ofName? : String → Option ι) (read : Datum → Option α) :
    Datum → Option (List (ι × α))
  | record fields true =>
    fields.mapM fun (name, d) => (ofName? name).bind fun i => (read d).map fun a => (i, a)
  | _ => none

/-- One of several names, alone or as the only field of a record without a value. -/
def choice? {α : Type} (ofName? : String → Option α) : Datum → Option α
  | text s => ofName? s
  | record [(s, null)] _ => ofName? s
  | _ => none

/-! ## Records -/

/-- How a field of a record may be left out. -/
inductive Omission
  | never
  /-- Where the fields are given by their names. -/
  | byName
  | always
deriving DecidableEq, Repr

/-- A field of a kind of record. -/
structure Field where
  name : String
  omission : Omission := .never
deriving DecidableEq, Repr

/-- The value of a field, if there is just one. The outer `none` stands for two. -/
def single? (name : String) : List (String × Datum) → Option (Option Datum)
  | [] => some none
  | (n, d) :: rest =>
    if n = name then
      if rest.any fun e => e.1 == name then none else some (some d)
    else single? name rest

/-- The value of a field given by its name. -/
def namedField? (fields : List (String × Datum)) (f : Field) : Option (Option Datum) :=
  match single? f.name fields with
  | some none => if f.omission = .never then none else some none
  | found => found

/-- The values of the fields of a record given by their places. -/
def placedFields? : List Field → List Datum → Option (List (Option Datum))
  | [], [] => some []
  | [], _ :: _ => none
  | f :: fs, [] => if f.omission = .always then (placedFields? fs []).map (none :: ·) else none
  | _ :: fs, d :: ds => (placedFields? fs ds).map (some d :: ·)

/-- The values of the fields of a kind of record. The record may name its fields, and then have
    others besides, or list their values in order. -/
def fieldValues? (fields : List Field) : Datum → Option (List (Option Datum))
  | record given _ => fields.mapM (namedField? given)
  | list items => placedFields? fields items
  | _ => none

/-- The value of a field, or what stands for it where it is left out. -/
def orElse {α : Type} (value : Option Datum) (default : α) (read : Datum → Option α) : Option α :=
  match value with
  | some d => read d
  | none => some default

/-- The value of a field that is not left out. -/
def required {α : Type} (value : Option Datum) (read : Datum → Option α) : Option α :=
  value.bind read

/-- The value of a field that may be left out or be nothing. -/
def omissible {α : Type} (value : Option Datum) (read : Datum → Option α) : Option (Option α) :=
  orElse value none (optional? read)

/-! ## Writing -/

/-- Nothing, or a value. -/
def ofOption {α : Type} (write : α → Datum) : Option α → Datum
  | some a => write a
  | none => null

/-- A natural number. -/
def ofNat (n : Nat) : Datum := number (.integer n)

/-- A list of texts. -/
def ofTexts (l : List String) : Datum := list (l.map text)

/-- A field that is left out where there is no value. -/
def ifPresent {α : Type} (name : String) (write : α → Datum) : Option α → List (String × Datum)
  | some a => [(name, write a)]
  | none => []

end Datum

end TrainingLab
