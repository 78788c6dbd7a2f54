/-
Enumerations with names and numbers.

The small vocabularies of a layout (which way a loco faces, which protocol an
accessory speaks) appear outside the program in two spellings: by name in JSON
and by number in stored fields. The number of a value is its place in the list
of all values, so one list of values and one function of names fix both
spellings. Names are compared exactly. A number without a value is answered
with nothing, or with the value that the vocabulary falls back to.
-/

set_option autoImplicit false

namespace Interlocking

/-- A finite vocabulary, listed once in the order of its numbers. -/
class Enumeration (α : Type) [DecidableEq α] where
  /-- All values, by ascending number. -/
  all : List α
  /-- The name of a value in JSON. -/
  name : α → String
  mem_all : ∀ a, a ∈ all
  name_inj : ∀ a b, name a = name b → a = b

namespace Enumeration

variable {α : Type} [DecidableEq α] [Enumeration α]

/-- The number of a value. -/
def code (a : α) : UInt8 :=
  UInt8.ofNat ((all : List α).idxOf a)

/-- The value of a number. -/
def ofCode? (n : UInt8) : Option α :=
  (all : List α)[n.toNat]?

/-- The value of a number, where a number without a value means `fallback`. -/
def ofCode (fallback : α) (n : UInt8) : α :=
  (ofCode? n).getD fallback

/-- The value with a given name. -/
def ofName? (s : String) : Option α :=
  (all : List α).find? fun a => name a == s

/-- A name names its own value. -/
theorem ofName?_name (a : α) : ofName? (name a) = some a := by
  have hex : ∃ b ∈ (all : List α), name b == name a := ⟨a, mem_all a, by simp⟩
  obtain ⟨b, hb⟩ := Option.isSome_iff_exists.1 (List.find?_isSome.2 hex)
  have hname := List.find?_some hb
  rw [ofName?, hb, name_inj b a (by simpa using hname)]

/-- The number of a value is the value's own, as long as the numbers fit. -/
theorem ofCode?_code (h : (all : List α).length ≤ 256) (a : α) : ofCode? (code a) = some a := by
  have hlt := List.idxOf_lt_length_of_mem (mem_all a)
  have hcode : (code a).toNat = (all : List α).idxOf a :=
    UInt8.toNat_ofNat_of_lt' (Nat.lt_of_lt_of_le hlt h)
  rw [ofCode?, hcode, List.getElem?_eq_getElem hlt, List.getElem_idxOf hlt]

end Enumeration
end Interlocking
