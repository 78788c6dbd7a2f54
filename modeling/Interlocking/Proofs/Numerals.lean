/-
Which texts denote a number.

A number is written in one way and read in many: a plus sign and leading zeros make no
difference. `Denotes` says which texts denote which number, in the words of arithmetic and
without a look at how they are read, and the reader accepts these and no others
(`word?_eq_some_iff`).

Seen from the other end, there is nothing to a text that denotes a number but its written
form and what may stand in front of it (`denotes_iff_written`). So whoever needs one
spelling for each number knows what there is to refuse.
-/
import Interlocking.Text.Decimal
import Mathlib.Data.List.Induction

set_option autoImplicit false

namespace Interlocking.Decimal

variable {cs digits : List Char} {acc n : Nat}

/-- The text denotes the number: one optional plus sign, then one or more decimal digits
that have the number as their value. -/
def Denotes (cs : List Char) (n : Nat) : Prop :=
  ∃ digits, (cs = digits ∨ cs = '+' :: digits) ∧ digits ≠ [] ∧
    (∀ c ∈ digits, c.isDigit = true) ∧ Nat.ofDigitChars 10 digits 0 = n

/-! ## What the reader accepts -/

theorem digit?_eq (c : Char) :
    digit? c = if c.isDigit = true then some (c.toNat - '0'.toNat) else none := by
  have hdigit : ('0' ≤ c ∧ c ≤ '9') ↔ c.isDigit = true := by
    rw [Char.isDigit, Bool.and_eq_true, decide_eq_true_iff, decide_eq_true_iff]
    rfl
  simp only [digit?, hdigit]

theorem digitsFrom?_eq_some_iff : digitsFrom? acc cs = some n ↔
    (∀ c ∈ cs, c.isDigit = true) ∧ Nat.ofDigitChars 10 cs acc = n := by
  induction cs generalizing acc with
  | nil => simp [digitsFrom?]
  | cons c cs ih =>
    rw [digitsFrom?, digit?_eq, List.forall_mem_cons, Nat.ofDigitChars_cons]
    by_cases hc : c.isDigit = true
    · rw [if_pos hc, and_iff_right hc]
      exact ih
    · rw [if_neg hc]
      exact iff_of_false (Option.some_ne_none n).symm fun h => hc h.1.1

theorem digits?_eq_some_iff : digits? cs = some n ↔
    cs ≠ [] ∧ (∀ c ∈ cs, c.isDigit = true) ∧ Nat.ofDigitChars 10 cs 0 = n := by
  cases cs with
  | nil => exact iff_of_false (Option.some_ne_none n).symm fun h => h.1 rfl
  | cons c cs => exact digitsFrom?_eq_some_iff.trans (and_iff_right (List.cons_ne_nil c cs)).symm

/-- The sign is no digit, so a text cannot be read both with and without it. -/
theorem natural?_eq_some_iff : natural? cs = some n ↔ Denotes cs n := by
  rw [natural?.eq_def]
  split
  next cs =>
    rw [digits?_eq_some_iff]
    constructor
    · exact fun h => ⟨cs, .inr rfl, h⟩
    · rintro ⟨digits, rfl | hsigned, hne, hdigits, hvalue⟩
      · cases hdigits '+' List.mem_cons_self
      · obtain rfl := List.cons.inj hsigned |>.2
        exact ⟨hne, hdigits, hvalue⟩
  next hunsigned =>
    rw [digits?_eq_some_iff]
    constructor
    · exact fun h => ⟨cs, .inl rfl, h⟩
    · rintro ⟨digits, rfl | rfl, h⟩
      · exact h
      · exact absurd rfl (hunsigned digits)

/-- **A word is read** from the texts that denote it, and from no others. -/
theorem word?_eq_some_iff {α : Type} [Word α] {s : String} {a : α} :
    word? s = some a ↔ Denotes s.toList (Word.toNat a) := by
  rw [← natural?_eq_some_iff, word?, Option.bind_eq_some_iff]
  constructor
  · rintro ⟨n, hn, hword⟩
    rw [Word.ofNat?] at hword
    split at hword
    next hrange =>
      obtain rfl := Option.some.inj hword
      rw [hn, Word.toNat_ofNat n hrange]
    next => cases hword
  · exact fun h => ⟨Word.toNat a, h, Word.ofNat?_toNat a⟩

/-! ## What stands in front of the written form -/

/-- The written form of a number denotes it. -/
theorem denotes_chars (n : Nat) : Denotes (chars n) n :=
  ⟨chars n, .inl rfl, Nat.toDigits_ne_nil,
    fun _ => Nat.isDigit_of_mem_toDigits (by decide) (by decide), Nat.ofDigitChars_ten_toDigits⟩

/-- One more digit behind a written number. Zero is written with a digit of its own, which
then stands in front. -/
theorem exists_chars_append_digit {d : Nat} (hd : d < 10) (m : Nat) : ∃ zeros,
    chars m ++ [Nat.digitChar d] = List.replicate zeros '0' ++ chars (10 * m + d) := by
  by_cases hm : m = 0
  · refine ⟨1, ?_⟩
    rw [hm, Nat.mul_zero, Nat.zero_add, chars_of_lt hd, chars_of_lt (by decide)]
    rfl
  · have hquot : (10 * m + d) / 10 = m := by omega
    have hrem : (10 * m + d) % 10 = d := by omega
    refine ⟨0, ?_⟩
    rw [chars_of_le (n := 10 * m + d) (by omega), hquot, hrem]
    rfl

theorem digitChar_of_isDigit {c : Char} (hc : c.isDigit = true) :
    c.toNat - '0'.toNat < 10 ∧ Nat.digitChar (c.toNat - '0'.toNat) = c := by
  rw [Char.isDigit, Bool.and_eq_true, decide_eq_true_iff, decide_eq_true_iff] at hc
  have hlow : 48 ≤ c.toNat := hc.1
  have hhigh : c.toNat ≤ 57 := hc.2
  have hzero : '0'.toNat = 48 := rfl
  have hd : c.toNat - '0'.toNat < 10 := by omega
  refine ⟨hd, Char.toNat_inj.1 ?_⟩
  rw [Nat.toNat_digitChar_of_lt_ten hd]
  omega

/-- Digits are the written form of their value behind some zeros. -/
theorem eq_zeros_append_chars (hne : digits ≠ []) (hdigits : ∀ c ∈ digits, c.isDigit = true) :
    ∃ zeros, digits = List.replicate zeros '0' ++ chars (Nat.ofDigitChars 10 digits 0) := by
  -- The last digit is taken off, as it is in the written form.
  induction digits using List.reverseRecOn with
  | nil => exact absurd rfl hne
  | append_singleton front c ih =>
    obtain ⟨hd, hchar⟩ := digitChar_of_isDigit (hdigits c (by simp))
    rw [Nat.ofDigitChars_append, Nat.ofDigitChars_cons, Nat.ofDigitChars_nil]
    by_cases hfront : front = []
    · subst hfront
      refine ⟨0, ?_⟩
      rw [Nat.ofDigitChars_nil, Nat.mul_zero, Nat.zero_add, chars_of_lt hd, hchar]
      rfl
    · obtain ⟨zeros, hzeros⟩ := ih hfront fun c' hc' => hdigits c' (List.mem_append_left _ hc')
      obtain ⟨more, hmore⟩ := exists_chars_append_digit hd (Nat.ofDigitChars 10 front 0)
      rw [hchar] at hmore
      refine ⟨zeros + more, ?_⟩
      rw [← List.replicate_append_replicate, List.append_assoc, ← hmore, ← List.append_assoc,
        ← hzeros]

/-- **A text that denotes a number** is its written form behind an optional plus sign and
any number of zeros. -/
theorem denotes_iff_written : Denotes cs n ↔ ∃ sign zeros, (sign = [] ∨ sign = ['+']) ∧
    cs = sign ++ (List.replicate zeros '0' ++ chars n) := by
  constructor
  · rintro ⟨digits, hsign, hne, hdigits, rfl⟩
    obtain ⟨zeros, hzeros⟩ := eq_zeros_append_chars hne hdigits
    rcases hsign with rfl | rfl
    · exact ⟨[], zeros, .inl rfl, hzeros⟩
    · exact ⟨['+'], zeros, .inr rfl, congrArg ('+' :: ·) hzeros⟩
  · rintro ⟨sign, zeros, hsign, rfl⟩
    refine ⟨List.replicate zeros '0' ++ chars n, ?_, ?_, ?_, ?_⟩
    · rcases hsign with rfl | rfl
      · exact .inl rfl
      · exact .inr rfl
    · exact fun h => Nat.toDigits_ne_nil (List.append_eq_nil_iff.1 h).2
    · intro c hc
      rcases List.mem_append.1 hc with hzero | hwritten
      · rw [List.eq_of_mem_replicate hzero]
        rfl
      · exact Nat.isDigit_of_mem_toDigits (by decide) (by decide) hwritten
    · rw [Nat.ofDigitChars_append, Nat.ofDigitChars_replicate_zero, Nat.mul_zero]
      exact Nat.ofDigitChars_ten_toDigits

end Interlocking.Decimal
