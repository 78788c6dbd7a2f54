/-
Approaches: in which order the routes of a loco are offered.

An approach is asked for at three places: in the request, on the segment the
route leaves, and on the layout as a whole. Each place may defer to the next
one by saying `systemDefault`; if all of them defer, the order of discovery
is kept.
-/
import Interlocking.Enumeration
import Interlocking.Text.Blank

set_option autoImplicit false

namespace Interlocking

/-- How the routes that a loco may take are ordered. -/
inductive Approach where
  /-- Defer to the next place that has an approach. -/
  | systemDefault
  /-- Keep the order of discovery. -/
  | doNotCare
  /-- Any order. -/
  | random
  /-- Shortest destination first. -/
  | minTrackLength
  /-- Longest unused first. -/
  | longestUnused
  deriving DecidableEq, Repr, Inhabited

namespace Approach

/-- The name of an approach. -/
def name : Approach → String
  | systemDefault => "system_default"
  | doNotCare => "do_not_care"
  | random => "random"
  | minTrackLength => "min_track_length"
  | longestUnused => "longest_unused"

/-- The words for approaches, after trimming and folding of case. -/
def ofKeyword? : String → Option Approach
  | "system_default" => some systemDefault
  | "default" => some systemDefault
  | "0" => some systemDefault
  | "do_not_care" => some doNotCare
  | "dont_care" => some doNotCare
  | "1" => some doNotCare
  | "random" => some random
  | "2" => some random
  | "min_track_length" => some minTrackLength
  | "shortest" => some minTrackLength
  | "3" => some minTrackLength
  | "longest_unused" => some longestUnused
  | "4" => some longestUnused
  | _ => none

/-- Reads an approach as people write it. -/
def parse? (s : String) : Option Approach :=
  ofKeyword? (Text.keyword s)

/-- The approach in effect: the first one, in the order asked, that does not
defer. -/
def resolve (asked : Approach) (fallbacks : List Approach) : Approach :=
  ((asked :: fallbacks).find? (· ≠ systemDefault)).getD doNotCare

end Approach

instance : Enumeration Approach where
  all := [.systemDefault, .doNotCare, .random, .minTrackLength, .longestUnused]
  name := Approach.name
  mem_all a := by cases a <;> decide
  name_inj a b := by cases a <;> cases b <;> decide

/-- The approach of a number; an unknown number defers. -/
def Approach.ofCode (n : UInt8) : Approach := Enumeration.ofCode .systemDefault n

end Interlocking
