/-
What the steps of a lock do.

A step either answers a new lock or is refused, and for each of them one
equivalence below says when it answers and with what. Whatever is proved about
segments and accessories reads the steps through these equivalences only.
-/
import Interlocking.Lock

set_option autoImplicit false

namespace Interlocking.Lock

variable {k k' : Lock} {l : LocoId}

/-! ## Holders -/

@[simp] theorem holder?_free : free.holder? = none := rfl

@[simp] theorem holder?_reserved : (reserved l).holder? = some l := rfl

@[simp] theorem holder?_locked : (locked l).holder? = some l := rfl

@[simp] theorem holder?_eq_none_iff : k.holder? = none ↔ k = free := by
  cases k <;> simp

theorem holder?_eq_some_iff : k.holder? = some l ↔ k = reserved l ∨ k = locked l := by
  cases k <;> simp

theorem ne_free_of_holder (h : k.holder? = some l) : k ≠ free := by
  rintro rfl
  cases h

@[simp] theorem isFree_iff : k.isFree = true ↔ k = free := by
  rw [isFree, Option.isNone_iff_eq_none, holder?_eq_none_iff]

theorem isFree_eq_false_iff : k.isFree = false ↔ k ≠ free := by
  rw [← Bool.not_eq_true, isFree_iff]

theorem heldByOther_eq_false_iff : k.heldByOther l = false ↔ k = free ∨ k.holder? = some l := by
  cases k <;> simp [heldByOther]

/-! ## Steps -/

/-- Reserving takes a free lock and leaves a lock of the loco itself alone. -/
theorem reserve_eq_some_iff :
    k.reserve l = some k' ↔
      k = free ∧ k' = reserved l ∨ k.holder? = some l ∧ k' = k := by
  cases k with
  | free => simp [reserve, eq_comm]
  | reserved h | locked h =>
    by_cases hl : h = l
    · simp [reserve, hl, eq_comm]
    · simp [reserve, hl]

theorem isSome_reserve_iff :
    (k.reserve l).isSome = true ↔ k = free ∨ k.holder? = some l := by
  rw [Option.isSome_iff_exists]
  simp only [reserve_eq_some_iff]
  constructor
  · rintro ⟨k', ⟨hl, -⟩ | ⟨hl, -⟩⟩
    · exact .inl hl
    · exact .inr hl
  · rintro (hl | hl)
    · exact ⟨_, .inl ⟨hl, rfl⟩⟩
    · exact ⟨_, .inr ⟨hl, rfl⟩⟩

theorem lock_eq_some_iff : k.lock l = some k' ↔ k.holder? = some l ∧ k' = locked l := by
  rw [lock]
  split <;> simp_all [eq_comm]

theorem release_eq_some_iff : k.release l = some k' ↔ k.holder? = some l ∧ k' = free := by
  rw [release]
  split <;> simp_all [eq_comm]

theorem unreserve_eq_some_iff : k.unreserve l = some k' ↔ k = reserved l ∧ k' = free := by
  rw [unreserve]
  split <;> simp_all [eq_comm]

theorem unlock_eq_some_iff : k.unlock l = some k' ↔ k = locked l ∧ k' = reserved l := by
  rw [unlock]
  split <;> simp_all [eq_comm]

end Interlocking.Lock
