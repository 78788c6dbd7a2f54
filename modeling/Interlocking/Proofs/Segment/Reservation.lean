/-
Taking a segment, and putting it back.

A reservation that succeeds does one of three things: it takes a free segment,
it leaves the segment with its holder, or it takes back the release that the
holder had put off. `Takes` lists the three, and for each of them there is a
way back. That the way back ends where it began is not a matter of the calls
alone. Dropping the new reservation of a segment brings the shown occupancy up
to date, and a release can be put off again only while the segment is occupied;
so the segment has to be one on which the noted loco and the shown occupancy
are right.
-/
import Interlocking.Proofs.Segment.Invariant

set_option autoImplicit false

namespace Interlocking.Segment

variable {g g' : Segment} {l : LocoId} {grant : Grant}

/-! ## Segments with a past -/

/-- A segment that came about by calls on the segment of a configuration, none
of which dropped a reservation. -/
inductive Ordinary : Segment → Prop where
  | ofConfig (c : SegmentConfig) : Ordinary (ofConfig c)
  | call {g : Segment} (hg : Ordinary g) (c : Call) (hc : ∀ l, c ≠ .unreserve l) :
      Ordinary (g.call c).segment

theorem Ordinary.run (hg : g.Ordinary) {calls : List Segment.Call}
    (hcalls : ∀ c ∈ calls, ∀ l, c ≠ .unreserve l) : (g.run calls).Ordinary :=
  List.foldlRecOn calls _ hg fun _ hg c hc => hg.call c (hcalls c hc)

theorem Ordinary.pendingSound (hg : g.Ordinary) : g.core.PendingSound := by
  induction hg with
  | ofConfig c => exact core_pendingSound_ofConfig c
  | call _ c hc ih =>
    refine pendingSound_call ih ?_
    rintro ⟨l, rfl, -⟩
    exact hc l rfl

theorem Ordinary.shownSound (hg : g.Ordinary) : g.core.ShownSound := by
  induction hg with
  | ofConfig c => exact shownSound_run c []
  | call _ c _ ih => exact shownSound_call ih c

theorem Ordinary.pending_of_free (hg : g.Ordinary) (hl : g.lock = .free) :
    g.pendingRelease = none :=
  hg.pendingSound.pending_eq_none (.inl hl)

theorem Ordinary.pending_of_holder (hg : g.Ordinary) (hl : g.lock.holder? = some l) :
    g.pendingRelease = none ∨ g.pendingRelease = some l := by
  cases hp : g.pendingRelease with
  | none => exact .inl rfl
  | some h => exact .inr (((hg.pendingSound.holder h hp).symm.trans hl) ▸ rfl)

/-! ## Taking -/

/-- Whether a loco gets the segment if it asks for it. -/
def Obtainable (g : Segment) (l : LocoId) : Prop :=
  g.blocked = false ∧ (g.lock = .free ∨ g.lock.holder? = some l)

/-- The segment after a loco has got it: a free one is reserved, and a loco that
holds it keeps its lock and no longer waits to release it. -/
def grantedTo (l : LocoId) (g : Segment) : Segment :=
  if g.lock = .free then { g with lock := .reserved l } else { g with pendingRelease := none }

theorem grantedTo_of_free (hl : g.lock = .free) :
    g.grantedTo l = { g with lock := .reserved l } := by
  rw [grantedTo, if_pos hl]

theorem grantedTo_of_held (hl : g.lock ≠ .free) :
    g.grantedTo l = { g with pendingRelease := none } := by
  rw [grantedTo, if_neg hl]

/-- What a reservation that succeeds does. -/
inductive Takes (g : Segment) (l : LocoId) : Grant → Segment → Prop where
  | new (hl : g.lock = .free) : Takes g l .new { g with lock := .reserved l }
  | held (hl : g.lock.holder? = some l) (hp : g.pendingRelease = none) : Takes g l .held g
  | heldPendingCancelled (hl : g.lock.holder? = some l) (hp : g.pendingRelease = some l) :
      Takes g l .heldPendingCancelled { g with pendingRelease := none }

theorem tryReserve_isSome_iff : (g.tryReserve l).isSome = true ↔ g.Obtainable l := by
  rw [tryReserve, Obtainable, ← Lock.isSome_reserve_iff]
  cases g.blocked <;> simp

theorem takes_of_tryReserve (hg : g.Ordinary) (h : g.tryReserve l = some (grant, g')) :
    g.Takes l grant g' := by
  simp only [tryReserve] at h
  split at h
  · cases h
  obtain ⟨k, hk, hgrant⟩ := Option.map_eq_some_iff.1 h
  rcases Lock.reserve_eq_some_iff.1 hk with ⟨hl, rfl⟩ | ⟨hl, rfl⟩
  · -- A noted loco would be told that it took a release back, but none is noted here.
    have hp : g.pendingRelease = none := hg.pending_of_free hl
    have hno : ¬ g.lock.holder? = some l := by rw [hl]; simp
    rw [if_neg (by rw [hp]; simp), if_neg hno] at hgrant
    cases hgrant
    exact .new hl
  · rcases hg.pending_of_holder hl with hp | hp
    · rw [if_neg (by rw [hp]; simp), if_pos hl] at hgrant
      cases hgrant
      exact .held hl hp
    · rw [if_pos hp] at hgrant
      cases hgrant
      exact .heldPendingCancelled hl hp

theorem call_reserve_of_tryReserve (h : g.tryReserve l = some (grant, g')) :
    (g.call (.reserve l)).segment = g' := by
  simp only [call, h]
  rfl

theorem Takes.eq_grantedTo (h : g.Takes l grant g') : g' = g.grantedTo l := by
  cases h with
  | new hl => rw [grantedTo_of_free hl]
  | held hl hp => rw [grantedTo_of_held (Lock.ne_free_of_holder hl), ← hp]
  | heldPendingCancelled hl hp => rw [grantedTo_of_held (Lock.ne_free_of_holder hl)]

theorem Ordinary.call_reserve (hg : g.Ordinary) (h : g.Obtainable l) :
    (g.call (.reserve l)).segment = g.grantedTo l := by
  obtain ⟨⟨grant, g'⟩, hr⟩ := Option.isSome_iff_exists.1 (tryReserve_isSome_iff.2 h)
  rw [call_reserve_of_tryReserve hr, (takes_of_tryReserve hg hr).eq_grantedTo]

theorem Ordinary.grantedTo (hg : g.Ordinary) (h : g.Obtainable l) : (g.grantedTo l).Ordinary := by
  rw [← hg.call_reserve h]
  exact hg.call _ (by simp)

theorem grantedTo_grantedTo (hg : g.Ordinary) : (g.grantedTo l).grantedTo l = g.grantedTo l := by
  by_cases hl : g.lock = .free
  · have hp : g.pendingRelease = none := hg.pending_of_free hl
    rw [grantedTo_of_free hl, grantedTo_of_held (by simp), ← hp]
  · rw [grantedTo_of_held hl, grantedTo_of_held (by exact hl)]

theorem Obtainable.again (h : g.Obtainable l) : (g.grantedTo l).Obtainable l := by
  obtain ⟨hb, hl | hl⟩ := h
  · rw [grantedTo_of_free hl]
    exact ⟨hb, .inr rfl⟩
  · rw [grantedTo_of_held (Lock.ne_free_of_holder hl)]
    exact ⟨hb, .inr hl⟩

/-! ## Putting back -/

/-- The shown occupancy of a segment that nobody holds is up to date. -/
theorem refreshDelayed_of_free (hg : g.core.ShownSound) (hl : g.lock = .free) :
    refreshDelayed g = g := by
  rw [refreshDelayed]
  by_cases ho : g.occupancy = .occupied
  · have hs : g.occupancyDelayed = .occupied := hg.occupied ho
    rw [if_pos (isOccupied_eq_true_iff.2 ho), ← hs]
  · have hf : g.occupancy = .free := by
      cases h : g.occupancy
      · rfl
      · exact absurd h ho
    have hs : g.occupancyDelayed = .free := hg.unheld hf hl
    rw [if_neg (fun e => ho (isOccupied_eq_true_iff.1 e)), if_pos (Lock.isFree_iff.2 hl), ← hs]

/-- Dropping a reservation that was new leaves the segment as it was. -/
theorem call_unreserve_of_new (hg : g.Ordinary) (hl : g.lock = .free) :
    call { g with lock := .reserved l } (.unreserve l) = silently true g := by
  have hk : (Lock.reserved l).unreserve l = some .free := Lock.unreserve_eq_some_iff.2 ⟨rfl, rfl⟩
  simp only [call, unreserve, hk]
  rw [← hl]
  exact congrArg (silently true) (refreshDelayed_of_free hg.shownSound hl)

/-- Putting off the release once more leaves the segment as it was. -/
theorem restorePendingRelease_of_cancelled (hg : g.Ordinary) (hl : g.lock.holder? = some l)
    (hp : g.pendingRelease = some l) :
    restorePendingRelease l { g with pendingRelease := none } = silently () g := by
  -- On a clear segment the release would happen now instead of waiting again.
  have ho : g.occupancy = .occupied := hg.pendingSound.occupied l hp
  have hopen : ¬ (g.lock.holder? ≠ some l ∨ (none : Option LocoId).isSome = true) := by
    rintro (hne | hsome)
    · exact hne hl
    · cases hsome
  rw [restorePendingRelease, if_neg hopen, if_pos (isOccupied_eq_true_iff.2 ho), ← hp]

end Interlocking.Segment
