/-
Numbers as they are written in JSON.

The vocabulary of this library knows unsigned whole numbers only, but a text
may hold any number, and three questions have to be answered about one: is it
written as a whole number, does it have a sign, and is it so large that the
reader cannot represent it. The last question is about the range of binary
floating-point numbers of 64 bits, and about the way to them: of a long number
the reader keeps the leading digits that a machine word holds, and it rounds
these digits, the power of ten and their product one after the other. So close
to the bound it is the spelling that decides, not the value alone.
-/
import Interlocking.Json.Rounding
import Interlocking.Text.Decimal

set_option autoImplicit false

namespace Interlocking

/-- A number as it is written. -/
structure Numeral where
  negative : Bool := false
  /-- The digits in front of the exponent as one number. -/
  digits : Nat := 0
  /-- How many of the digits stand behind the point. -/
  places : Nat := 0
  exponent : Int := 0
  /-- Written with neither point nor exponent. -/
  integral : Bool := true
  deriving DecidableEq, Repr

namespace Numeral

/-- The numeral of an unsigned whole number. -/
def ofNat (n : Nat) : Numeral := { digits := n }

/-- The value of a numeral that is written as an unsigned whole number. A zero
with a sign is not. -/
def natural? (n : Numeral) : Option Nat :=
  if n.integral && !n.negative then some n.digits else none

theorem natural?_ofNat (n : Nat) : (ofNat n).natural? = some n := rfl

/-! ## Range -/

/-- Appends digits to a number as long as a machine word holds it, and counts
the digits that are left over. -/
def appendDigits (n : Nat) : List Nat → Nat × Nat
  | [] => (n, 0)
  | d :: ds =>
    if 10 * n + d < Word.bound UInt64 then appendDigits (10 * n + d) ds else (n, ds.length + 1)

/-- The digits that are kept, as one number, and the power of ten that it is
multiplied by. Digits in front of the point count as powers of ten if they are
not kept, and then digits behind the point may still be appended. -/
def kept (n : Numeral) : Nat × Int :=
  let digits := (Decimal.chars n.digits).filterMap Decimal.digit?
  let digits := List.replicate (n.places - digits.length) 0 ++ digits
  let fraction := digits.drop (digits.length - n.places)
  let (whole, left) := appendDigits 0 (digits.take (digits.length - n.places))
  let (all, dropped) := appendDigits whole fraction
  (all, n.exponent + left - fraction.length + dropped)

/-- The least number that rounds beyond the greatest floating-point number. -/
def realBound : Nat := Nat.pow 2 1024 - Nat.pow 2 970

/-- Whether a numeral is beyond the range of floating-point numbers. A negative
power of ten makes the digits smaller, and 309 is too large a power for any. -/
def outOfRange (n : Numeral) : Bool :=
  let (digits, power) := n.kept
  if digits = 0 ∨ power < 0 then false
  else if 308 < power then true
  else decide (realBound ≤ Rounding.real digits * Rounding.real (Nat.pow 10 power.toNat))

/-! ## Reading character by character -/

/-- What of a numeral has been read. -/
inductive Stage where
  /-- The sign, or nothing. -/
  | start
  /-- A leading zero. -/
  | zero
  /-- Digits in front of the point. -/
  | whole
  /-- The point. -/
  | point
  /-- Digits behind the point. -/
  | fraction
  /-- The letter of the exponent. -/
  | mark
  /-- The sign of the exponent. -/
  | markSign (negative : Bool)
  /-- Digits of the exponent. -/
  | exponent (negative : Bool)
  deriving DecidableEq, Repr

/-- Whether a numeral may end here. -/
def Stage.complete : Stage → Bool
  | zero | whole | fraction | exponent _ => true
  | start | point | mark | markSign _ => false

/-- Takes one more digit. Behind a leading zero there is none. -/
def takeDigit (n : Numeral) (d : Nat) : Stage → Option (Numeral × Stage)
  | .start => some ({ n with digits := d }, if d = 0 then .zero else .whole)
  | .zero => none
  | .whole => some ({ n with digits := 10 * n.digits + d }, .whole)
  | .point | .fraction =>
    some ({ n with digits := 10 * n.digits + d, places := n.places + 1 }, .fraction)
  | .mark => some ({ n with exponent := d }, .exponent false)
  | .markSign false => some ({ n with exponent := d }, .exponent false)
  | .markSign true => some ({ n with exponent := -d }, .exponent true)
  | .exponent false => some ({ n with exponent := 10 * n.exponent + d }, .exponent false)
  | .exponent true => some ({ n with exponent := 10 * n.exponent - d }, .exponent true)

/-- Takes one more character that is no digit. -/
def takeMark (n : Numeral) (c : Char) : Stage → Option (Numeral × Stage)
  | .start => if c = '-' ∧ !n.negative then some ({ n with negative := true }, .start) else none
  | .zero | .whole =>
    if c = '.' then some ({ n with integral := false }, .point)
    else if c = 'e' ∨ c = 'E' then some ({ n with integral := false }, .mark)
    else none
  | .fraction => if c = 'e' ∨ c = 'E' then some (n, .mark) else none
  | .mark =>
    if c = '+' then some (n, .markSign false)
    else if c = '-' then some (n, .markSign true)
    else none
  | .point | .markSign _ | .exponent _ => none

/-- Takes one more character; nothing if it does not belong to the numeral. -/
def take (n : Numeral) (stage : Stage) (c : Char) : Option (Numeral × Stage) :=
  match Decimal.digit? c with
  | some d => n.takeDigit d stage
  | none => n.takeMark c stage

end Numeral
end Interlocking
