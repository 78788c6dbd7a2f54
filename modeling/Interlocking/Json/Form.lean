/-
Forms: how values of a type stand in JSON.

A form is a writer together with a reader. The reader takes a draft and is
strict in the order of the text: the first thing that is wrong is the fault,
and a fault is one of two. Either the text stops being JSON, or it is JSON and
the value is not one of the type. Whoever answers for a fault treats the two
differently.

A writer and a reader belong together when reading what was written gives the
value back; that is `Form.Lawful`.
-/
import Interlocking.Enumeration
import Interlocking.Json.Document
import Interlocking.Json.Print
import Interlocking.Registry
import Interlocking.Text.Bounded

set_option autoImplicit false

namespace Interlocking

/-- Why a value could not be read. -/
inductive Json.Fault where
  /-- The text is not JSON. -/
  | malformed
  /-- The text is JSON, but its value is not of the type. -/
  | unfit
  deriving DecidableEq, Repr

/-- The fault that something of another kind stands where a value is due. The
scalar values are read to their ends before that is noticed, so a fault in one
of them comes first. -/
def Json.Draft.mismatch : Json.Draft → Json.Fault
  | .broken | .unpaired => .malformed
  | .number n => if n.outOfRange then .malformed else .unfit
  | _ => .unfit

/-- A writer and a reader for a type. -/
structure Json.Form (α : Type) where
  write : α → Json
  read : Json.Draft → Except Json.Fault α

namespace Json.Form

variable {α : Type}

/-- Reading what was written gives the value back. -/
def Lawful (f : Form α) : Prop := ∀ a, f.read (f.write a).draft = .ok a

/-! ## Texts -/

/-- The text of a value. -/
def encode (f : Form α) (a : α) : String := (f.write a).compact

/-- Reads a text that holds one value and nothing else. -/
def decode (f : Form α) (text : String) : Except Fault α :=
  let d := Document.ofText text
  match f.read d.value with
  | .ok a => if d.alone then .ok a else .error .malformed
  | .error e => .error e

/-- Reads the value at the beginning of a text, whatever follows it. -/
def decodeFirst (f : Form α) (text : String) : Except Fault α :=
  f.read (Document.ofText text).value

/-! ## Scalars -/

/-- Yes or no. -/
def flag : Form Bool where
  write := .bool
  read
    | .bool b => .ok b
    | v => .error v.mismatch

/-- An unsigned number of a width. -/
def word (α : Type) [Word α] : Form α where
  write a := .number (Word.toNat a)
  read
    | .number n =>
      match n.natural?.bind Word.ofNat? with
      | some a => .ok a
      | none => .error (Draft.number n).mismatch
    | v => .error v.mismatch

/-- A text. -/
def text : Form String where
  write := .string
  read
    | .string s => .ok s
    | v => .error v.mismatch

/-- A text of bounded size; a longer one is refused. -/
def bounded (capacity : Nat) : Form (BoundedText capacity) where
  write b := .string b.text
  read
    | .string s =>
      match BoundedText.ofText? s with
      | some b => .ok b
      | none => .error .unfit
    | v => .error v.mismatch

/-! ## Other types -/

/-- The values of `f` under another type. -/
def map {β : Type} (f : Form α) (there : α → β) (back : β → α) : Form β where
  write b := f.write (back b)
  read v := (f.read v).map there

/-- Some of the values of `f` under another type. -/
def refine {β : Type} (f : Form α) (there : α → Option β) (back : β → α) : Form β where
  write b := f.write (back b)
  read v :=
    match f.read v with
    | .error e => .error e
    | .ok a =>
      match there a with
      | some b => .ok b
      | none => .error .unfit

/-! ## Vocabularies -/

/-- A value of a vocabulary. It is written as its name, and may also be read
as the only key of an object, with nothing as its value. -/
def vocabulary (α : Type) [DecidableEq α] [Enumeration α] : Form α where
  write a := .string (Enumeration.name a)
  read
    | .string s =>
      match Enumeration.ofName? s with
      | some a => .ok a
      | none => .error .unfit
    | .object ((some s, v) :: rest) closed =>
      match Enumeration.ofName? s, v with
      | none, _ => .error .unfit
      | some a, .null => if rest.isEmpty && closed then .ok a else .error .malformed
      | some _, v => .error v.mismatch
    | _ => .error .malformed

/-- A value of a vocabulary of which only the name will do. -/
def named (α : Type) [DecidableEq α] [Enumeration α] : Form α where
  write a := .string (Enumeration.name a)
  read
    | .string s =>
      match Enumeration.ofName? s with
      | some a => .ok a
      | none => .error .unfit
    | v => .error v.mismatch

/-! ## Containers -/

/-- A value that may be missing; `null` stands for none. -/
def option (f : Form α) : Form (Option α) where
  write
    | none => .null
    | some a => f.write a
  read
    | .null => .ok none
    | v => (f.read v).map some

/-- A list of values. -/
def list (f : Form α) : Form (List α) where
  write as := .array (as.map f.write)
  read
    | .array items closed =>
      match items.mapM f.read with
      | .ok as => if closed then .ok as else .error .malformed
      | .error e => .error e
    | v => .error v.mismatch

/-- Reads the members of a map into a registry; of several members with one
key the last counts. -/
def readEntries (f : Form α) : List (Option String × Draft) → Registry String α →
    Except Fault (Registry String α)
  | [], r => .ok r
  | (none, _) :: _, _ => .error .malformed
  | (some key, v) :: rest, r =>
    match f.read v with
    | .ok a => readEntries f rest (r.insert key a)
    | .error e => .error e

/-- A map whose keys are texts. -/
def registry (f : Form α) : Form (Registry String α) where
  write r := .object (r.entries.map fun e => (e.1, f.write e.2))
  read
    | .object members closed =>
      match readEntries f members .empty with
      | .ok r => if closed then .ok r else .error .malformed
      | .error e => .error e
    | v => .error v.mismatch

end Json.Form
end Interlocking
