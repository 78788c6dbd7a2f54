/-
Mutual exclusion on a segment.

A segment has one lock, so at most one loco holds it; what needs a proof is
that the lock does not slip away. `Loses` lists the calls by which the holder
can lose the segment. All but one are made by a loco or an operator who asks
for it. The exception is the report that clears the segment, and it takes the
segment only from the loco that the pending release names.

The list is about single calls. Over a run of calls, a loco that holds the
segment holds it as long as no call of the list occurs (`holder_run`).
-/
import Interlocking.Proofs.Segment.Step

set_option autoImplicit false

namespace Interlocking.Segment

/-- The calls by which loco `a` can lose a segment that it holds. -/
inductive Loses (g : Segment) (a : LocoId) : Call → Prop where
  | release : Loses g a (.release a)
  | unreserve (hl : g.lock = .reserved a) : Loses g a (.unreserve a)
  | releaseForce (l : LocoId) : Loses g a (.releaseForce l)
  | reserveForce (b : LocoId) (hb : b ≠ a) : Loses g a (.reserveForce b)
  /-- The segment clears while the loco's release waits for it. -/
  | report {c : Call} (hc : c.isReport = true) (ho : g.occupancy = .occupied)
      (hf : (g.call c).segment.occupancy = .free) (hp : g.pendingRelease = some a) : Loses g a c

/-! ## One call -/

/-- A holder that is no longer the holder after a call lost the segment by it. -/
theorem loses_of_holder_ne {g : Segment} {a : LocoId} {c : Call}
    (ha : g.lock.holder? = some a) (hne : (g.call c).segment.lock.holder? ≠ some a) :
    g.Loses a c := by
  obtain ⟨answer, k, heff, -, hlock, -, hocc, -⟩ := g.call_parts c
  rw [hlock] at hne
  -- An effect that leaves the holder alone is excluded by `hne`; what is left are
  -- the effects that free the lock or give it to another loco.
  cases heff with
  | refused | setting | unmoved | entered | cleared | kept | putOff => exact absurd ha hne
  | @fired _ l hc ho hp hl =>
    have hla : l = a := Option.some.inj (hl.symm.trans ha)
    exact .report hc ho hocc (hla ▸ hp)
  | taken l hl =>
    rw [hl] at ha
    cases ha
  | seized l => exact .reserveForce l fun hla => hne (congrArg some hla)
  | locked l hl => exact absurd (hl.symm.trans ha) hne
  | unlocked l hl =>
    rw [hl] at ha
    exact absurd ha hne
  | released l hl =>
    have hla : l = a := Option.some.inj (hl.symm.trans ha)
    exact hla ▸ .release
  | freed l => exact .releaseForce l
  | dropped l hl =>
    have hla : l = a := by
      rw [hl] at ha
      exact Option.some.inj ha
    exact hla ▸ .unreserve (hla ▸ hl)

/-- A loco that has a segment locked after a call and not before made the call,
and had the segment reserved. -/
theorem lock_of_locked {g : Segment} {b : LocoId} {c : Call}
    (hb : (g.call c).segment.lock = .locked b) (hnb : g.lock ≠ .locked b) :
    c = .lock b ∧ g.lock = .reserved b := by
  obtain ⟨answer, k, heff, -, hlock, -, -, -⟩ := g.call_parts c
  rw [hlock] at hb
  -- Only one effect leaves a locked segment behind that was not locked before.
  cases heff with
  | refused | setting | unmoved | entered | cleared | kept | putOff => exact absurd hb hnb
  | fired | taken | seized | unlocked | released | freed | dropped => cases hb
  | locked l hl =>
    obtain rfl : l = b := by simpa using hb
    rcases Lock.holder?_eq_some_iff.1 hl with hr | hr
    · exact ⟨rfl, hr⟩
    · exact absurd hr hnb

/-- **Exclusion.** The holder of a segment loses it only by a call that
`Loses` lists; a segment becomes locked only for the loco that reserved it, at
that loco's call; and a refused call changes nothing and tells nobody. The
segment need not be one that a run leads to. -/
theorem call_exclusive (g : Segment) (c : Call) :
    (∀ a, g.lock.holder? = some a → (g.call c).segment.lock.holder? ≠ some a → g.Loses a c) ∧
      (∀ b, (g.call c).segment.lock = .locked b → g.lock ≠ .locked b →
        c = .lock b ∧ g.lock = .reserved b) ∧
      ((g.call c).answer = false → (g.call c).segment = g ∧ (g.call c).notice = none) := by
  refine ⟨fun a ha hne => loses_of_holder_ne ha hne, fun b hb hnb => lock_of_locked hb hnb, ?_⟩
  intro h
  rw [call_refused g h]
  exact ⟨rfl, rfl⟩

/-! ## Runs of calls -/

/-- A holder stays the holder of a segment over a run in which it never loses
the segment. -/
theorem holder_run {a : LocoId} {g : Segment} {calls : List Call}
    (ha : g.lock.holder? = some a)
    (hkeep : ∀ before c after, calls = before ++ c :: after → ¬ (g.run before).Loses a c) :
    (g.run calls).lock.holder? = some a := by
  induction calls generalizing g with
  | nil => exact ha
  | cons c calls ih =>
    -- The first call of the run is the one with nothing before it.
    have hstep : (g.call c).segment.lock.holder? = some a :=
      Decidable.of_not_not fun hne => hkeep [] c calls rfl (loses_of_holder_ne ha hne)
    refine ih hstep fun before c' after hsplit => ?_
    exact hkeep (c :: before) c' after (by rw [hsplit]; rfl)

end Interlocking.Segment
