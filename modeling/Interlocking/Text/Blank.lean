/-
Blank characters, trimming and case folding.

An operator types `" Occupied "` and a file holds `"1, 2"`; both are read
after the blanks around the word are dropped. What counts as a blank is the
Unicode property White_Space, which is a table and not a formula, so the table
is here and nothing else depends on it. Case is folded for the ASCII letters
only: the words that are compared are ASCII, and folding more would make
letters equal that are not.
-/

set_option autoImplicit false

namespace Interlocking.Text

/-! ## The property White_Space -/

/-- The code points with the Unicode property White_Space, as closed ranges in
ascending order. -/
def blankRanges : List (Nat × Nat) :=
  [(0x09, 0x0D), (0x20, 0x20), (0x85, 0x85), (0xA0, 0xA0), (0x1680, 0x1680),
   (0x2000, 0x200A), (0x2028, 0x2029), (0x202F, 0x202F), (0x205F, 0x205F),
   (0x3000, 0x3000)]

/-- Whether a character is a blank: its code point lies in one of the ranges. -/
def isBlank (c : Char) : Bool :=
  blankRanges.any fun r => r.1 ≤ c.toNat && c.toNat ≤ r.2

/-- The ranges hold the twenty-five code points of the property. -/
example : (blankRanges.map fun r => r.2 - r.1 + 1).sum = 25 := by decide

/-! ## Trimming -/

/-- Drops the blanks at both ends of a list of characters. -/
def trimChars (cs : List Char) : List Char :=
  ((cs.dropWhile isBlank).reverse.dropWhile isBlank).reverse

/-- Drops the blanks at both ends of a text; blanks inside it stay. -/
def trim (s : String) : String :=
  String.ofList (trimChars s.toList)

/-! ## Case -/

/-- Replaces the letters A to Z by a to z and keeps every other character. -/
def lowerAscii (s : String) : String :=
  String.ofList (s.toList.map Char.toLower)

/-- A word as it is compared with a keyword: trimmed, ASCII letters small. -/
def keyword (s : String) : String :=
  lowerAscii (trim s)

end Interlocking.Text
