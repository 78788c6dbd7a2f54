/-
What holds of a segment whatever was called on it.

Two things are kept beside the lock and the occupancy, and both can be told
from these in every state that a run of calls leads to, with one exception.

The loco that is noted to be leaving holds the segment, and the segment is
occupied (`PendingSound`). The second part holds after every run of calls
(`occupied_of_noted_run`). The first is broken by a loco that drops its
reservation while its own release waits, since dropping a reservation forgets
the lock and not the note; no other call breaks it (`pendingSound_call`).

The shown occupancy is the real one whenever the segment is occupied or nobody
holds it (`ShownSound`). No call breaks this.
-/
import Interlocking.Proofs.Segment.Step
import Mathlib.Data.List.Induction

set_option autoImplicit false

namespace Interlocking

/-! ## The noted loco -/

/-- The noted loco holds the segment, and the segment is occupied. -/
structure Segment.Core.PendingSound (k : Segment.Core) : Prop where
  holder : ∀ l, k.pending = some l → k.lock.holder? = some l
  occupied : ∀ l, k.pending = some l → k.occupancy = .occupied

namespace Segment

theorem Core.pendingSound_of_none {k : Core} (h : k.pending = none) : k.PendingSound where
  holder _ hl := nomatch h.symm.trans hl
  occupied _ hl := nomatch h.symm.trans hl

/-- A loco is noted only where a loco is. -/
theorem Core.PendingSound.pending_eq_none {k : Core} (h : k.PendingSound)
    (hk : k.lock = .free ∨ k.occupancy = .free) : k.pending = none := by
  cases hp : k.pending with
  | none => rfl
  | some l =>
    have hl := h.holder l hp
    have ho := h.occupied l hp
    rcases hk with hk | hk
    · rw [hk] at hl
      cases hl
    · rw [hk] at ho
      cases ho

theorem core_pendingSound_ofConfig (cfg : SegmentConfig) : (ofConfig cfg).core.PendingSound :=
  Core.pendingSound_of_none rfl

/-- Whether `l` is about to drop a reservation while its own release waits. -/
def Orphans (g : Segment) (c : Call) : Prop :=
  ∃ l, c = .unreserve l ∧ g.lock = .reserved l ∧ g.pendingRelease = some l

/-- A loco that is noted after a reservation was noted before. -/
theorem pending_of_withdrawn {p : Option LocoId} {l h : LocoId}
    (hp : (if p = some l then none else p) = some h) : p = some h := by
  split at hp
  · cases hp
  · exact hp

/-- **One call.** Only dropping a reservation can leave a loco noted that does
not hold the segment. -/
theorem pendingSound_call {g : Segment} {c : Call} (hg : g.core.PendingSound)
    (hc : ¬ g.Orphans c) : (g.call c).segment.core.PendingSound := by
  have heff := g.call_effect c
  generalize (g.call c).segment.core = k at heff
  generalize (g.call c).answer = answer at heff
  -- A loco becomes noted only in `putOff`; elsewhere the note stays or goes.
  cases heff with
  | refused | setting | unmoved => exact hg
  | entered => exact ⟨hg.holder, fun _ _ => rfl⟩
  | cleared | fired | seized | released | freed => exact Core.pendingSound_of_none rfl
  | taken l hl =>
    have hp : g.pendingRelease = none := hg.pending_eq_none (.inl hl)
    exact Core.pendingSound_of_none (by rw [hp, ite_self])
  | kept l hl =>
    exact ⟨fun h hp => hg.holder h (pending_of_withdrawn hp),
      fun h hp => hg.occupied h (pending_of_withdrawn hp)⟩
  | locked l hl => exact ⟨fun h hp => hl.symm.trans (hg.holder h hp), hg.occupied⟩
  | unlocked l hl =>
    have hh : g.lock.holder? = some l := by rw [hl]; rfl
    exact ⟨fun h hp => hh.symm.trans (hg.holder h hp), hg.occupied⟩
  | putOff l hl hw ho =>
    refine ⟨fun h hp => ?_, fun h hp => ho⟩
    obtain rfl : l = h := Option.some.inj hp
    exact hl
  | dropped l hl =>
    cases hp : g.pendingRelease with
    | none => exact Core.pendingSound_of_none rfl
    | some h =>
      -- The noted loco is the holder, so it is the one that drops the reservation.
      have hh : g.lock.holder? = some h := hg.holder h hp
      rw [hl] at hh
      obtain rfl : l = h := Option.some.inj hh
      exact absurd ⟨l, rfl, hl, hp⟩ hc

/-- The reservation that is dropped leaves its loco noted. -/
theorem not_pendingSound_of_orphans {g : Segment} {c : Call} (hc : g.Orphans c) :
    ¬ (g.call c).segment.core.PendingSound := by
  obtain ⟨l, rfl, hl, hp⟩ := hc
  intro h
  have hcall : (g.call (.unreserve l)).segment.core
      = ⟨.free, some l, g.occupancy, g.occupancy⟩ := by
    have hk : g.lock.unreserve l = some .free := Lock.unreserve_eq_some_iff.2 ⟨hl, rfl⟩
    rw [← hp, ← core_refreshDelayed_free]
    simp only [call, unreserve, hk]
    rfl
  rw [hcall] at h
  cases h.holder l rfl

/-! ## The noted loco over a run -/

/-- What is promised of the noted loco, and what follows from it: neither a
segment that nobody holds nor one that is clear has a noted loco, a segment is
in use exactly if it is held, and only a holder can take back a release. -/
structure PendingConsistent (g : Segment) : Prop where
  holder : ∀ l, g.pendingRelease = some l → g.lock.holder? = some l
  occupied : ∀ l, g.pendingRelease = some l → g.occupancy = .occupied
  unheld : g.lock = .free → g.pendingRelease = none
  clear : g.occupancy = .free → g.pendingRelease = none
  inUse_iff : g.inUse = true ↔ g.lock ≠ .free
  taken_back : ∀ l g', g.tryReserve l = some (.heldPendingCancelled, g') →
    g.lock.holder? = some l

/-- A loco takes back a release only where it is noted. -/
theorem pending_of_taken_back {g g' : Segment} {l : LocoId}
    (h : g.tryReserve l = some (.heldPendingCancelled, g')) : g.pendingRelease = some l := by
  simp only [tryReserve] at h
  split at h
  · cases h
  obtain ⟨k, -, hk⟩ := Option.map_eq_some_iff.1 h
  split at hk
  next hp => exact hp
  next =>
    have hgrant := (Prod.mk.inj hk).1
    split at hgrant <;> cases hgrant

theorem pendingConsistent_iff {g : Segment} : g.PendingConsistent ↔ g.core.PendingSound := by
  constructor
  · intro h
    exact ⟨h.holder, h.occupied⟩
  · intro h
    have hnone : g.lock = .free → g.pendingRelease = none := fun hl => h.pending_eq_none (.inl hl)
    refine ⟨h.holder, h.occupied, hnone, fun ho => h.pending_eq_none (.inr ho), ?_, ?_⟩
    · rw [inUse, Bool.or_eq_true, Bool.not_eq_true', Lock.isFree_eq_false_iff]
      constructor
      · rintro (hl | hp) hf
        · exact hl hf
        · rw [hnone hf] at hp
          cases hp
      · intro hl
        exact .inl hl
    · intro l g' ht
      exact h.holder l (pending_of_taken_back ht)

/-- A loco stays noted only while the segment is occupied, whoever drops what. -/
theorem occupied_of_noted_call {g : Segment} (hg : g.pendingRelease.isSome → g.occupancy = .occupied)
    (c : Call) (h : (g.call c).segment.pendingRelease.isSome) :
    (g.call c).segment.occupancy = .occupied := by
  obtain ⟨answer, k, heff, -, -, hpend, hocc, -⟩ := g.call_parts c
  rw [hpend] at h
  rw [hocc]
  cases heff with
  | refused | setting | unmoved | locked | unlocked | dropped => exact hg h
  | entered => rfl
  | cleared | fired | seized | released | freed => cases h
  | taken | kept =>
    obtain ⟨l, hl⟩ := Option.isSome_iff_exists.1 h
    exact hg (Option.isSome_of_mem (pending_of_withdrawn hl))
  | putOff _ _ _ ho => exact ho

/-- On the segment of a configuration, a loco is noted only while the segment is
occupied, after every run of calls. -/
theorem occupied_of_noted_run (cfg : SegmentConfig) (calls : List Call) :
    ((ofConfig cfg).run calls).pendingRelease.isSome →
      ((ofConfig cfg).run calls).occupancy = .occupied := by
  induction calls using List.reverseRecOn with
  | nil => exact (nomatch ·)
  | append_singleton calls c ih =>
    rw [run_append]
    exact occupied_of_noted_call ih c

/-- Over a run in which no loco drops a reservation while its release waits,
the noted loco is right from the first state to the last. -/
theorem pendingSound_run {g : Segment} {calls : List Call} (hg : g.core.PendingSound)
    (hc : ∀ before c after, calls = before ++ c :: after → ¬ (g.run before).Orphans c) :
    (g.run calls).core.PendingSound := by
  -- Calls are taken off the end, because `hc` is about the state before each call.
  induction calls using List.reverseRecOn with
  | nil => exact hg
  | append_singleton calls c ih =>
    rw [run_append]
    refine pendingSound_call (ih fun before c' after hsplit => ?_) (hc calls c [] rfl)
    exact hc before c' (after ++ [c]) (by rw [hsplit]; simp)

/-- **When the noted loco is right.** Over a run of calls on the segment of a
configuration, the noted loco is right in every state exactly if no loco drops
a reservation while its own release waits. -/
theorem pendingConsistent_run_iff (cfg : SegmentConfig) (calls : List Call) :
    (∀ before after, calls = before ++ after → ((ofConfig cfg).run before).PendingConsistent) ↔
      ∀ before l after, calls = before ++ .unreserve l :: after →
        ¬ (((ofConfig cfg).run before).lock = .reserved l ∧
          ((ofConfig cfg).run before).pendingRelease = some l) := by
  constructor
  · rintro h before l after hsplit ⟨hl, hp⟩
    have hnext := h (before ++ [.unreserve l]) after (by rw [hsplit]; simp)
    rw [run_append, pendingConsistent_iff] at hnext
    exact not_pendingSound_of_orphans ⟨l, rfl, hl, hp⟩ hnext
  · intro h before after hsplit
    rw [pendingConsistent_iff]
    refine pendingSound_run (core_pendingSound_ofConfig cfg) ?_
    rintro first c rest hbefore ⟨l, rfl, hl, hp⟩
    exact h first l (rest ++ after) (by rw [hsplit, hbefore]; simp) ⟨hl, hp⟩

/-- A loco reserves an occupied segment, gives it up, and drops the reservation
while the release waits: nobody holds the segment, and the loco stays noted. -/
theorem not_pendingConsistent_of_dropped_reservation :
    let cfg : SegmentConfig :=
      { id := ⟨2⟩, name := "T2", length := 1, sensors := [⟨1⟩], releaseWhenFree := true }
    let g := (ofConfig cfg).run
      [.setSensorState ⟨1⟩ .occupied, .reserve ⟨7⟩, .release ⟨7⟩, .unreserve ⟨7⟩]
    g.lock = .free ∧ g.pendingRelease = some ⟨7⟩ ∧ g.inUse = true ∧ ¬ g.PendingConsistent := by
  refine ⟨by decide, by decide, by decide, fun h => ?_⟩
  exact absurd (h.unheld (by decide)) (by decide)

/-! ## The shown occupancy -/

/-- What is shown is the real occupancy, unless the segment is clear and held. -/
structure Core.ShownSound (k : Core) : Prop where
  occupied : k.occupancy = .occupied → k.shown = .occupied
  unheld : k.occupancy = .free → k.lock = .free → k.shown = .free

/-- Every call keeps what is shown right. -/
theorem shownSound_call {g : Segment} (hg : g.core.ShownSound) (c : Call) :
    (g.call c).segment.core.ShownSound := by
  have heff := g.call_effect c
  generalize (g.call c).segment.core = k at heff
  generalize (g.call c).answer = answer at heff
  cases heff with
  | refused | setting | unmoved => exact hg
  | entered => exact ⟨fun _ => rfl, fun ho => nomatch ho⟩
  | cleared => exact ⟨(nomatch ·), fun _ hl => if_pos (Lock.isFree_iff.2 hl)⟩
  | fired => exact ⟨(nomatch ·), fun _ _ => rfl⟩
  | kept | putOff => exact ⟨hg.occupied, hg.unheld⟩
  | taken | seized | locked | unlocked => exact ⟨hg.occupied, fun _ hl => nomatch hl⟩
  | released | freed | dropped => exact ⟨fun ho => ho, fun ho _ => ho⟩

/-- What is shown is right after every run of calls on the segment of a
configuration. -/
theorem shownSound_run (cfg : SegmentConfig) (calls : List Call) :
    ((ofConfig cfg).run calls).core.ShownSound := by
  induction calls using List.reverseRecOn with
  | nil => exact ⟨(nomatch ·), fun _ _ => rfl⟩
  | append_singleton calls c ih =>
    rw [run_append]
    exact shownSound_call ih c

end Segment
end Interlocking
