/-
Orientation: which way the loco on a segment faces.
-/
import Interlocking.Enumeration

set_option autoImplicit false

namespace Interlocking

/-- The direction in which a loco faces; `right` unless something else is known. -/
inductive Orientation where
  | left
  | right
  deriving DecidableEq, Repr

namespace Orientation

instance : Inhabited Orientation := ⟨right⟩

/-- The word for a direction. -/
def name : Orientation → String
  | left => "left"
  | right => "right"

/-- The opposite direction. -/
def flipped : Orientation → Orientation
  | left => right
  | right => left

end Orientation

instance : Enumeration Orientation where
  all := [.left, .right]
  name := Orientation.name
  mem_all a := by cases a <;> decide
  name_inj a b := by cases a <;> cases b <;> decide

/-- The direction of a number; every number but that of `left` means `right`. -/
def Orientation.ofCode (n : UInt8) : Orientation := Enumeration.ofCode .right n

end Interlocking
