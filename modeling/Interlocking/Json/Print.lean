/-
The two written forms of a JSON value.

The compact form has no blanks at all. The tidy form gives every item and
every member a line of its own, two blanks deeper than its container, and is
meant for files that people look at. Strings are written the same way in both:
the quote, the backslash and the control characters are escaped, everything
else stands as it is.
-/
import Interlocking.Json.Tree

set_option autoImplicit false

namespace Interlocking.Json

/-! ## Strings -/

/-- A character inside a string. -/
def escape (c : Char) : List Char :=
  match c with
  | '"' => ['\\', '"']
  | '\\' => ['\\', '\\']
  | '\x08' => ['\\', 'b']
  | '\x0c' => ['\\', 'f']
  | '\n' => ['\\', 'n']
  | '\r' => ['\\', 'r']
  | '\t' => ['\\', 't']
  | c =>
    if c.toNat < 0x20 then
      ['\\', 'u', '0', '0', Nat.digitChar (c.toNat / 16), Nat.digitChar (c.toNat % 16)]
    else [c]

/-- A string with its quotes. -/
def quote (s : String) : List Char :=
  '"' :: s.toList.flatMap escape ++ ['"']

/-! ## The compact form -/

/-- Written parts with commas between them. -/
def commas : List (List Char) → List Char
  | [] => []
  | [part] => part
  | part :: next :: rest => part ++ ',' :: commas (next :: rest)

mutual

/-- The compact form of a value. -/
def chars : Json → List Char
  | .null => ['n', 'u', 'l', 'l']
  | .bool true => ['t', 'r', 'u', 'e']
  | .bool false => ['f', 'a', 'l', 's', 'e']
  | .number n => Decimal.chars n
  | .string s => quote s
  | .array items => '[' :: commas (itemChars items) ++ [']']
  | .object members => '\x7b' :: commas (memberChars members) ++ ['\x7d']

/-- The compact forms of items. -/
def itemChars : List Json → List (List Char)
  | [] => []
  | v :: vs => chars v :: itemChars vs

/-- The compact forms of members. -/
def memberChars : List (String × Json) → List (List Char)
  | [] => []
  | m :: ms => memberChar m :: memberChars ms

/-- The compact form of a member. -/
def memberChar : String × Json → List Char
  | (key, v) => quote key ++ ':' :: chars v

end

/-- The compact text of a value. -/
def compact (v : Json) : String := String.ofList (chars v)

/-! ## The tidy form -/

/-- The beginning of a line at a depth. -/
def newline (depth : Nat) : List Char := '\n' :: List.replicate (2 * depth) ' '

/-- Written parts between brackets, each on its own line; brackets without
parts stand together. -/
def block (depth : Nat) (opening closing : Char) : List (List Char) → List Char
  | [] => [opening, closing]
  | parts => opening :: commas (parts.map (newline (depth + 1) ++ ·)) ++ newline depth ++ [closing]

mutual

/-- The tidy form of a value at a depth. -/
def tidyChars (depth : Nat) : Json → List Char
  | .null => chars .null
  | .bool b => chars (.bool b)
  | .number n => chars (.number n)
  | .string s => quote s
  | .array items => block depth '[' ']' (tidyItems depth items)
  | .object members => block depth '\x7b' '\x7d' (tidyMembers depth members)

/-- The tidy forms of items inside a container at a depth. -/
def tidyItems (depth : Nat) : List Json → List (List Char)
  | [] => []
  | v :: vs => tidyChars (depth + 1) v :: tidyItems depth vs

/-- The tidy forms of members inside a container at a depth. -/
def tidyMembers (depth : Nat) : List (String × Json) → List (List Char)
  | [] => []
  | m :: ms => tidyMember depth m :: tidyMembers depth ms

/-- The tidy form of a member inside a container at a depth. -/
def tidyMember (depth : Nat) : String × Json → List Char
  | (key, v) => quote key ++ ':' :: ' ' :: tidyChars (depth + 1) v

end

/-- The tidy text of a value. -/
def tidy (v : Json) : String := String.ofList (tidyChars 0 v)

end Interlocking.Json
