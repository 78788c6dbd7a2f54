/-
JSON values, and drafts of them.

What the program writes is a `Json`: a value with unsigned whole numbers only,
because it has no others. What it reads is a `Json.Draft`: as much of a value
as a text holds before its first fault. A text whose beginning already is not
of the expected form is refused for that, whatever comes after it, so a reader
needs to see the part in front of a fault, and it needs to notice the fault
when it gets there. The containers that the fault leaves open say so.
-/
import Interlocking.Json.Numeral

set_option autoImplicit false

namespace Interlocking

/-- A JSON value as the program writes it. -/
inductive Json where
  | null
  | bool (b : Bool)
  | number (n : Nat)
  | string (s : String)
  | array (items : List Json)
  | object (members : List (String × Json))
  deriving Repr, Inhabited

/-- As much of a JSON value as a text holds. -/
inductive Json.Draft where
  | null
  | bool (b : Bool)
  | number (n : Numeral)
  | string (s : String)
  /-- A string with half of a surrogate pair. It has the form of a string, and
  no text is its value. -/
  | unpaired
  /-- The items in front of the end, or of the fault if it was never closed. -/
  | array (items : List Json.Draft) (closed : Bool)
  /-- The members in front of the end, or of the fault if it was never closed.
  A key that is no text is missing. -/
  | object (members : List (Option String × Json.Draft)) (closed : Bool)
  /-- There is a fault where the value should be. -/
  | broken
  deriving Repr, Inhabited

namespace Json.Draft

/-- Whether the whole value is well-formed. A container that was closed has
well-formed parts only, so nobody has to look inside. -/
def whole : Draft → Bool
  | null | bool _ | number _ | string _ | unpaired => true
  | array _ closed => closed
  | object _ closed => closed
  | broken => false

/-- Whether a value can be kept for later with at most `room` containers one
inside the other: all its strings and keys are texts and all its numbers are
in range. -/
def keepable : Nat → Draft → Bool
  | _, null | _, bool _ | _, string _ => true
  | _, number n => !n.outOfRange
  | room + 1, array items closed => closed && items.all (keepable room)
  | room + 1, object members closed =>
    closed && members.all fun m => m.1.isSome && keepable room m.2
  | _, _ => false

end Json.Draft

/-! ## The draft of a value -/

mutual

/-- The draft that a well-formed value is. -/
def Json.draft : Json → Json.Draft
  | .null => .null
  | .bool b => .bool b
  | .number n => .number (.ofNat n)
  | .string s => .string s
  | .array items => .array (Json.draftItems items) true
  | .object members => .object (Json.draftMembers members) true

/-- The drafts of items. -/
def Json.draftItems : List Json → List Json.Draft
  | [] => []
  | v :: vs => v.draft :: Json.draftItems vs

/-- The drafts of members. -/
def Json.draftMembers : List (String × Json) → List (Option String × Json.Draft)
  | [] => []
  | m :: ms => Json.draftMember m :: Json.draftMembers ms

/-- The draft of a member. -/
def Json.draftMember : String × Json → Option String × Json.Draft
  | (key, v) => (some key, v.draft)

end

end Interlocking
