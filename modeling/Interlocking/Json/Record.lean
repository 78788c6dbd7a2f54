/-
Records in JSON.

A record is written as an object with its fields in a fixed order. It is read
from an object with its members in any order, where unknown members are
passed over, or from an array of the fields in order. Which fields may be left
out, and what they are then, is part of the record's schema; an array may end
early only where each of the missing fields has such a value.

The schema is a list of fields whose types differ, and its own type is that of
a function that puts the fields together. So a schema and a constructor fit
together or the program does not compile.
-/
import Interlocking.Json.Form

set_option autoImplicit false

namespace Interlocking.Json

/-- A field of type `α` of a record of type `ρ`. -/
structure Field (ρ α : Type) where
  name : String
  get : ρ → α
  form : Form α
  /-- The form as an item of an array. -/
  item : Form α := form
  /-- The value where an object does not have the field. -/
  absent : Option α := none
  /-- The value where an array ends before the field. -/
  short : Option α := absent
  /-- The values with which the field is not written. -/
  hidden : α → Bool := fun _ => false

/-- The fields of a record, in order. The second parameter is the type of a
function that makes the record from them. -/
inductive Schema (ρ : Type) : Type → Type 1 where
  | done : Schema ρ ρ
  | field {α σ : Type} (f : Field ρ α) (rest : Schema ρ σ) : Schema ρ (α → σ)

namespace Schema

variable {ρ : Type}

/-! ## Writing -/

/-- The members of the object of a record. -/
def members (r : ρ) : {σ : Type} → Schema ρ σ → List (String × Json)
  | _, done => []
  | _, field f rest =>
    if f.hidden (f.get r) then rest.members r
    else (f.name, f.form.write (f.get r)) :: rest.members r

/-! ## Reading arrays -/

/-- Makes the record from the items of an array. -/
def ofItems (closed : Bool) : {σ : Type} → Schema ρ σ → σ → List Draft → Except Fault ρ
  | _, done, r, [] => if closed then .ok r else .error .malformed
  | _, done, _, _ :: _ => .error .malformed
  | _, field f rest, make, v :: vs =>
    match f.item.read v with
    | .ok a => rest.ofItems closed (make a) vs
    | .error e => .error e
  | _, field f rest, make, [] =>
    if !closed then .error .malformed
    else
      match f.short with
      | some a => rest.ofItems closed (make a) []
      | none => .error .unfit

end Schema

/-! ## Reading objects -/

/-- The fields of a record while an object is read: each with its value, if
its member has been there already. -/
inductive Slots (ρ : Type) : Type → Type 1 where
  | done : Slots ρ ρ
  | slot {α σ : Type} (f : Field ρ α) (got : Option α) (rest : Slots ρ σ) : Slots ρ (α → σ)

/-- The fields of a record before its object is read. -/
def Schema.slots {ρ : Type} : {σ : Type} → Schema ρ σ → Slots ρ σ
  | _, done => .done
  | _, field f rest => .slot f none rest.slots

namespace Slots

variable {ρ : Type}

/-- Reads the value of a member into its slot; nothing if the key is unknown.
A second member with a known key is a fault, and its value is not read. -/
def put (key : String) (v : Draft) : {σ : Type} → Slots ρ σ → Option (Except Fault (Slots ρ σ))
  | _, done => none
  | _, slot f got rest =>
    if key = f.name then
      match got with
      | some _ => some (.error .unfit)
      | none => some ((f.form.read v).map fun a => slot f (some a) rest)
    else (rest.put key v).map fun e => e.map (slot f got)

/-- Reads members one after another. -/
def fill {σ : Type} : List (Option String × Draft) → Slots ρ σ → Except Fault (Slots ρ σ)
  | [], s => .ok s
  | (none, _) :: _, _ => .error .malformed
  | (some key, v) :: rest, s =>
    match s.put key v with
    | some (.ok s) => fill rest s
    | some (.error e) => .error e
    | none => if v.whole then fill rest s else .error .malformed

/-- Makes the record, with the values for absent fields in empty slots. -/
def build : {σ : Type} → Slots ρ σ → σ → Except Fault ρ
  | _, done, r => .ok r
  | _, slot f got rest, make =>
    match got <|> f.absent with
    | some a => rest.build (make a)
    | none => .error .unfit

end Slots

/-- The form of a record. -/
def Form.record {ρ σ : Type} (make : σ) (s : Schema ρ σ) : Form ρ where
  write r := .object (s.members r)
  read
    | .object members closed =>
      match s.slots.fill members with
      | .ok slots => if closed then slots.build make else .error .malformed
      | .error e => .error e
    | .array items closed => s.ofItems closed make items
    | v => .error v.mismatch

end Interlocking.Json
