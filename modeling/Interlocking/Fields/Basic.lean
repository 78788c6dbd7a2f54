/-
Fields: the flat form in which objects are stored.

Every object is stored as a map from field names to texts. Reading a field can
go wrong in one way only: it is missing, or its text is not of the expected
form, and then the error names the object and the field. Some fields may be
missing and stand for a default; a malformed text is an error even there.
-/
import Interlocking.Layout.Basic

set_option autoImplicit false

namespace Interlocking

/-- The stored form of an object: texts by field name. -/
abbrev Fields := Registry String String

namespace Fields

/-! ## Reading -/

/-- The error that a field of an object is missing or malformed. -/
def invalid {α : Type} (key : EntityKey) (field : String) : Except LayoutError α :=
  .error (.invalidField key field)

/-- A required text, as it is. -/
def text (f : Fields) (key : EntityKey) (field : String) : Except LayoutError String :=
  match f.get? field with
  | some s => .ok s
  | none => invalid key field

/-- A required number. -/
def word {α : Type} [Word α] (f : Fields) (key : EntityKey) (field : String) :
    Except LayoutError α :=
  match (f.get? field).bind Decimal.word? with
  | some a => .ok a
  | none => invalid key field

/-- A number that may be missing. -/
def wordOr {α : Type} [Word α] (f : Fields) (key : EntityKey) (field : String) (default : α) :
    Except LayoutError α :=
  match f.get? field with
  | none => .ok default
  | some s =>
    match Decimal.word? s with
    | some a => .ok a
    | none => invalid key field

/-- A yes-or-no field that may be missing: every number but zero is yes. -/
def flag (f : Fields) (key : EntityKey) (field : String) : Except LayoutError Bool :=
  (f.wordOr key field (0 : UInt8)).map fun n => decide (n ≠ 0)

/-- An optional number, written as an empty text where there is none. -/
def optional {α : Type} [Word α] (f : Fields) (key : EntityKey) (field : String) :
    Except LayoutError (Option α) :=
  match f.get? field with
  | none => .ok none
  | some s =>
    if s.isEmpty then .ok none
    else
      match Decimal.word? s with
      | some a => .ok (some a)
      | none => invalid key field

/-- A list of things between commas; an empty text is the empty list. -/
def list {α : Type} (f : Fields) (key : EntityKey) (field : String)
    (read? : String → Option α) : Except LayoutError (List α) :=
  match f.get? field with
  | none => .ok []
  | some s =>
    if s.isEmpty then .ok []
    else
      match (Text.split ',' s.toList).mapM fun piece => read? (String.ofList piece) with
      | some xs => .ok xs
      | none => invalid key field

/-! ## Writing -/

/-- A yes-or-no field. -/
def ofFlag (b : Bool) : String := if b then "1" else "0"

/-- The number of a value of a vocabulary. -/
def ofCode {α : Type} [DecidableEq α] [Enumeration α] (a : α) : String :=
  Decimal.text (Enumeration.code a)

/-- An optional number. -/
def ofOptional {α : Type} [Word α] : Option α → String
  | none => ""
  | some a => Decimal.text a

/-- The written things between commas. -/
def ofMembers {α : Type} (write : α → String) (xs : List α) : String :=
  String.ofList (Text.join ',' (xs.map fun x => (write x).toList))

end Fields
end Interlocking
