/-
Taking an accessory, and putting it back.

The same as for a segment, without the two complications that a segment has:
nobody closes an accessory, and no release of one waits.
-/
import Interlocking.Accessory
import Interlocking.Proofs.Lock

set_option autoImplicit false

namespace Interlocking.Accessory

variable {a a' : Accessory} {l : LocoId} {grant : Grant}

/-- Whether a loco gets the accessory if it asks for it. -/
def Obtainable (a : Accessory) (l : LocoId) : Prop :=
  a.lock = .free ∨ a.lock.holder? = some l

/-- The accessory after a loco has got it: a free one is reserved, and a loco
that holds it keeps its lock. -/
def grantedTo (l : LocoId) (a : Accessory) : Accessory :=
  if a.lock = .free then { a with lock := .reserved l } else a

/-- What a reservation that succeeds does. -/
inductive Takes (a : Accessory) (l : LocoId) : Grant → Accessory → Prop where
  | new (hl : a.lock = .free) : Takes a l .new { a with lock := .reserved l }
  | held (hl : a.lock.holder? = some l) : Takes a l .held a

theorem tryReserve_isSome_iff : (a.tryReserve l).isSome = true ↔ a.Obtainable l := by
  rw [tryReserve, Option.isSome_map, Lock.isSome_reserve_iff, Obtainable]

theorem takes_of_tryReserve (h : a.tryReserve l = some (grant, a')) : a.Takes l grant a' := by
  obtain ⟨k, hk, hgrant⟩ := Option.map_eq_some_iff.1 h
  rcases Lock.reserve_eq_some_iff.1 hk with ⟨hl, rfl⟩ | ⟨hl, rfl⟩
  · rw [if_neg (by rw [hl]; simp)] at hgrant
    cases hgrant
    exact .new hl
  · rw [if_pos hl] at hgrant
    cases hgrant
    exact .held hl

theorem Takes.eq_grantedTo (h : a.Takes l grant a') : a' = a.grantedTo l := by
  cases h with
  | new hl => rw [grantedTo, if_pos hl]
  | held hl => rw [grantedTo, if_neg (Lock.ne_free_of_holder hl)]

theorem call_reserve_of_obtainable (h : a.Obtainable l) :
    (a.call (.reserve l)).2 = a.grantedTo l := by
  obtain ⟨⟨grant, a'⟩, hr⟩ := Option.isSome_iff_exists.1 (tryReserve_isSome_iff.2 h)
  simp only [call, hr]
  exact (takes_of_tryReserve hr).eq_grantedTo

theorem grantedTo_grantedTo : (a.grantedTo l).grantedTo l = a.grantedTo l := by
  by_cases hl : a.lock = .free <;> simp [grantedTo, hl]

theorem Obtainable.again (h : a.Obtainable l) : (a.grantedTo l).Obtainable l := by
  rcases h with hl | hl
  · rw [grantedTo, if_pos hl]
    exact .inr rfl
  · rw [grantedTo, if_neg (Lock.ne_free_of_holder hl)]
    exact .inr hl

/-- Dropping a reservation that was new leaves the accessory as it was. -/
theorem call_unreserve_of_new (hl : a.lock = .free) :
    call { a with lock := .reserved l } (.unreserve l) = (true, a) := by
  have hk : (Lock.reserved l).unreserve l = some .free := Lock.unreserve_eq_some_iff.2 ⟨rfl, rfl⟩
  simp only [call, step, hk]
  rw [← hl]

end Interlocking.Accessory
