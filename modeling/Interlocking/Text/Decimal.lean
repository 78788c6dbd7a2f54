/-
Unsigned decimal numbers of fixed width.

Ids, addresses, lengths, priorities and stamps are machine words of four
widths. They are written as decimal digits without leading zeros and read
more liberally: one optional plus sign, then digits, leading zeros allowed,
nothing else, and the value has to fit the width. Reading therefore inverts
writing but is not one-to-one, and whoever needs one spelling per value has to
check for it.

The four widths share one reader through the class `Word`, which says nothing
but how a width counts.
-/

set_option autoImplicit false

namespace Interlocking

/-- A machine word: the natural numbers below `bound`. -/
class Word (α : Type) where
  /-- One more than the greatest value. -/
  bound : Nat
  /-- The value as a natural number. -/
  toNat : α → Nat
  /-- The word of a value; only values below `bound` are kept as they are. -/
  ofNat : Nat → α
  toNat_lt : ∀ a, toNat a < bound
  ofNat_toNat : ∀ a, ofNat (toNat a) = a
  toNat_ofNat : ∀ n, n < bound → toNat (ofNat n) = n

instance : Word UInt8 where
  bound := 2 ^ 8
  toNat := UInt8.toNat
  ofNat := UInt8.ofNat
  toNat_lt := UInt8.toNat_lt
  ofNat_toNat _ := UInt8.ofNat_toNat
  toNat_ofNat _ h := UInt8.toNat_ofNat_of_lt' h

instance : Word UInt16 where
  bound := 2 ^ 16
  toNat := UInt16.toNat
  ofNat := UInt16.ofNat
  toNat_lt := UInt16.toNat_lt
  ofNat_toNat _ := UInt16.ofNat_toNat
  toNat_ofNat _ h := UInt16.toNat_ofNat_of_lt' h

instance : Word UInt32 where
  bound := 2 ^ 32
  toNat := UInt32.toNat
  ofNat := UInt32.ofNat
  toNat_lt := UInt32.toNat_lt
  ofNat_toNat _ := UInt32.ofNat_toNat
  toNat_ofNat _ h := UInt32.toNat_ofNat_of_lt' h

instance : Word UInt64 where
  bound := 2 ^ 64
  toNat := UInt64.toNat
  ofNat := UInt64.ofNat
  toNat_lt := UInt64.toNat_lt
  ofNat_toNat _ := UInt64.ofNat_toNat
  toNat_ofNat _ h := UInt64.toNat_ofNat_of_lt' h

/-- The word of a natural number that is in range. -/
def Word.ofNat? {α : Type} [Word α] (n : Nat) : Option α :=
  if n < Word.bound α then some (Word.ofNat n) else none

theorem Word.ofNat?_toNat {α : Type} [Word α] (a : α) : Word.ofNat? (Word.toNat a) = some a := by
  rw [Word.ofNat?, if_pos (Word.toNat_lt a), Word.ofNat_toNat]

namespace Decimal

/-! ## Digits -/

/-- The value of a decimal digit. -/
def digit? (c : Char) : Option Nat :=
  if '0' ≤ c ∧ c ≤ '9' then some (c.toNat - '0'.toNat) else none

/-- The number that digits denote after the digits of `acc`; nothing if one of
the characters is no digit. -/
def digitsFrom? (acc : Nat) : List Char → Option Nat
  | [] => some acc
  | c :: cs =>
    match digit? c with
    | some d => digitsFrom? (10 * acc + d) cs
    | none => none

/-- The number that one or more digits denote. -/
def digits? : List Char → Option Nat
  | [] => none
  | cs => digitsFrom? 0 cs

/-! ## Reading and writing -/

/-- Reads an unsigned number: one optional plus sign, then digits. -/
def natural? : List Char → Option Nat
  | '+' :: cs => digits? cs
  | cs => digits? cs

/-- Reads a word of width `α`; a number out of range is refused. -/
def word? {α : Type} [Word α] (s : String) : Option α :=
  (natural? s.toList).bind Word.ofNat?

/-- The digits of a number, without leading zeros. -/
def chars (n : Nat) : List Char :=
  Nat.toDigits 10 n

/-- Writes a word. -/
def text {α : Type} [Word α] (a : α) : String :=
  String.ofList (chars (Word.toNat a))

/-! ## Reading inverts writing -/

private theorem digit?_digitChar {d : Nat} (h : d < 10) : digit? (Nat.digitChar d) = some d := by
  have table : ∀ d : Fin 10, digit? (Nat.digitChar d.val) = some d.val := by decide
  exact table ⟨d, h⟩

private theorem digitsFrom?_append (acc : Nat) (xs ys : List Char) :
    digitsFrom? acc (xs ++ ys) = (digitsFrom? acc xs).bind fun n => digitsFrom? n ys := by
  induction xs generalizing acc with
  | nil => simp [digitsFrom?]
  | cons c cs ih =>
    simp only [List.cons_append, digitsFrom?]
    cases digit? c with
    | none => simp
    | some d => simpa using ih (10 * acc + d)

theorem chars_of_lt {n : Nat} (h : n < 10) : chars n = [Nat.digitChar n] :=
  Nat.toDigits_of_lt_base h

/-- The last digit of a number that has more of them. -/
theorem chars_of_le {n : Nat} (h : 10 ≤ n) :
    chars n = chars (n / 10) ++ [Nat.digitChar (n % 10)] := by
  have hr : n % 10 < 10 := Nat.mod_lt _ (by decide)
  have hsplit := Nat.toDigits_append_toDigits (b := 10) (n := n / 10) (d := n % 10)
    (by decide) (by omega) hr
  rw [Nat.toDigits_of_lt_base hr] at hsplit
  rw [chars, chars, hsplit]
  congr 1
  omega

theorem digitsFrom?_chars (n : Nat) : digitsFrom? 0 (chars n) = some n := by
  induction n using Nat.strongRecOn with
  | ind n ih =>
    by_cases h : n < 10
    · rw [chars_of_lt h]
      simp [digitsFrom?, digit?_digitChar h]
    · have hr : n % 10 < 10 := Nat.mod_lt _ (by decide)
      rw [chars_of_le (by omega), digitsFrom?_append, ih (n / 10) (by omega)]
      simp only [Option.bind_some, digitsFrom?, digit?_digitChar hr]
      congr 1
      omega

/-- The first character of a written number is a digit, so it is no sign. -/
theorem natural?_chars (n : Nat) : natural? (chars n) = some n := by
  have hall := digitsFrom?_chars n
  cases h : chars n with
  | nil => exact absurd h (by simp [chars, Nat.toDigits_ne_nil])
  | cons c cs =>
    rw [h] at hall
    have hplus : c ≠ '+' := by
      rintro rfl
      simp [digitsFrom?, digit?] at hall
    rw [natural?]
    · simpa [digits?] using hall
    · intro rest hrest
      exact hplus (by injection hrest)

/-- Reading a written word gives the word back. -/
theorem word?_text {α : Type} [Word α] (a : α) : word? (text a) = some a := by
  rw [word?, text, String.toList_ofList, natural?_chars]
  exact Word.ofNat?_toNat a

end Decimal
end Interlocking
