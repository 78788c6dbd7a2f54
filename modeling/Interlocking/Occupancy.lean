/-
Occupancy: what a sensor reports and what a segment shows.
-/
import Interlocking.Enumeration
import Interlocking.Text.Blank

set_option autoImplicit false

namespace Interlocking

/-- Whether something stands on a stretch of track. -/
inductive Occupancy where
  | free
  | occupied
  deriving DecidableEq, Repr, Inhabited

namespace Occupancy

/-- The word for a state. -/
def name : Occupancy → String
  | free => "free"
  | occupied => "occupied"

/-- Whether the state is `occupied`. -/
def isOccupied : Occupancy → Bool
  | free => false
  | occupied => true

/-- The state that a yes-or-no answer to "is it occupied?" stands for. -/
def ofBool : Bool → Occupancy
  | true => occupied
  | false => free

/-- The words in which sensors report, after trimming and folding of case. -/
def ofKeyword? : String → Option Occupancy
  | "occupied" => some occupied
  | "on" => some occupied
  | "1" => some occupied
  | "free" => some free
  | "off" => some free
  | "0" => some free
  | _ => none

/-- Reads a report as people and devices write it. -/
def parse? (s : String) : Option Occupancy :=
  ofKeyword? (Text.keyword s)

end Occupancy

instance : Enumeration Occupancy where
  all := [.free, .occupied]
  name := Occupancy.name
  mem_all a := by cases a <;> decide
  name_inj a b := by cases a <;> cases b <;> decide

end Interlocking
