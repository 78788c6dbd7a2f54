/-
Rounding to binary digits.

A floating-point number of 64 bits has 53 binary digits, so a greater number
of more digits is rounded: to the nearest of those that end in enough zeros,
and halfway between two of them to the one whose last kept digit is zero.
-/

set_option autoImplicit false

namespace Interlocking.Rounding

/-- How many times `unit` goes into `n`, to the nearest; a tie goes to the even
number. -/
def nearest (n unit : Nat) : Nat :=
  let q := n / unit
  let r := n % unit
  if unit < 2 * r ∨ (2 * r = unit ∧ q % 2 = 1) then q + 1 else q

/-- Rounds a number to its first `bits` binary digits. -/
def binary (bits n : Nat) : Nat :=
  let unit := Nat.pow 2 (n.log2 + 1 - bits)
  nearest n unit * unit

/-- Rounds a number to a floating-point number, as if these had no bound. -/
def real (n : Nat) : Nat := binary 53 n

end Interlocking.Rounding
