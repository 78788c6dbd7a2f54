/-
What the occupancy that is shown stands for.

Observers see a segment as occupied from the moment it is entered until it is vacant,
which means neither occupied nor held. The segment keeps one value for this and brings
it up to date in some of the calls only. Here the value is compared with the past: with
whether the segment was occupied in some state of the run and has not been vacant since
(`OccupiedSinceVacant`).

Both obey the same equation over one more call, and that is the whole argument. For the
past it is a matter of the last state (`occupiedSinceVacant_concat_iff`). For the value
it needs that what was shown before the call is right, since a call that leaves the
segment held leaves the value alone (`shown_call_iff`).
-/
import Interlocking.Proofs.Segment.Invariant

set_option autoImplicit false

namespace Interlocking.Segment

variable {g : Segment} {calls : List Call} {c : Call}

/-! ## The past -/

/-- Neither occupied nor held. -/
structure Vacant (g : Segment) : Prop where
  clear : g.occupancy = .free
  unheld : g.lock = .free

theorem not_vacant_of_occupied (h : g.occupancy = .occupied) : ¬ g.Vacant := by
  intro hv
  cases hv.clear.symm.trans h

/-- Whether a segment was occupied in some state of a run, the last one included, and was
vacant neither then nor in any later state. -/
def OccupiedSinceVacant (g : Segment) (calls : List Call) : Prop :=
  ∃ before after, calls = before ++ after ∧ (g.run before).occupancy = .occupied ∧
    ∀ between rest, after = between ++ rest → ¬ (g.run (before ++ between)).Vacant

/-- The last state of a run decides, or passes on what was the case before. -/
theorem occupiedSinceVacant_concat_iff :
    g.OccupiedSinceVacant (calls ++ [c]) ↔
      (g.run (calls ++ [c])).occupancy = .occupied ∨
        g.OccupiedSinceVacant calls ∧ ¬ (g.run (calls ++ [c])).Vacant := by
  constructor
  · rintro ⟨before, after, hsplit, hocc, hkept⟩
    rcases List.eq_nil_or_concat after with rfl | ⟨after, c', rfl⟩
    · rw [List.append_nil] at hsplit
      rw [hsplit]
      exact .inl hocc
    · rw [List.concat_eq_append, ← List.append_assoc] at hsplit
      obtain ⟨rfl, hc⟩ := List.append_inj' hsplit rfl
      obtain rfl := List.head_eq_of_cons_eq hc
      refine .inr ⟨⟨before, after, rfl, hocc, fun between rest hbetween => ?_⟩, ?_⟩
      · exact hkept between (rest ++ [c]) (by rw [hbetween]; simp)
      · rw [List.append_assoc]
        exact hkept (after ++ [c]) [] (by simp)
  · rintro (hocc | ⟨⟨before, after, rfl, hocc, hkept⟩, hlast⟩)
    · refine ⟨calls ++ [c], [], by simp, hocc, fun between rest hbetween => ?_⟩
      obtain ⟨rfl, -⟩ := List.append_eq_nil_iff.1 hbetween.symm
      rw [List.append_nil]
      exact not_vacant_of_occupied hocc
    · refine ⟨before, after ++ [c], by simp, hocc, fun between rest hbetween => ?_⟩
      -- What lies between ends with the new call, or the new call comes later.
      rcases List.eq_nil_or_concat rest with rfl | ⟨rest, c', rfl⟩
      · rw [List.append_nil] at hbetween
        rwa [← hbetween, ← List.append_assoc]
      · rw [List.concat_eq_append, ← List.append_assoc] at hbetween
        exact hkept between rest (List.append_inj' hbetween rfl).1

/-! ## The value -/

/-- A call after which the segment is clear and held leaves alone what is shown. -/
theorem shown_call_of_held (ho : (g.call c).segment.occupancy = .free)
    (hl : (g.call c).segment.lock ≠ .free) :
    (g.call c).segment.occupancyDelayed = g.occupancyDelayed := by
  obtain ⟨answer, k, heff, -, hlock, -, hocc, hshown⟩ := g.call_parts c
  rw [hlock] at hl
  rw [hocc] at ho
  rw [hshown]
  cases heff with
  | refused | setting | unmoved | taken | kept | seized | locked | unlocked | putOff => rfl
  | entered => cases ho
  | cleared => exact if_neg fun hfree => hl (Lock.isFree_iff.1 hfree)
  | fired | released | freed | dropped => exact absurd rfl hl

/-- **One call.** A segment is shown as occupied after a call if it is occupied, and if
it was shown so before and is not vacant. -/
theorem shown_call_iff (hg : g.core.ShownSound) (c : Call) :
    (g.call c).segment.occupancyDelayed = .occupied ↔
      (g.call c).segment.occupancy = .occupied ∨
        g.occupancyDelayed = .occupied ∧ ¬ (g.call c).segment.Vacant := by
  have hnext : (g.call c).segment.core.ShownSound := shownSound_call hg c
  cases ho : (g.call c).segment.occupancy with
  | occupied => exact iff_of_true (hnext.occupied ho) (.inl rfl)
  | free =>
    by_cases hl : (g.call c).segment.lock = .free
    · have hshown : (g.call c).segment.occupancyDelayed = .free := hnext.unheld ho hl
      rw [hshown]
      refine iff_of_false (nomatch ·) ?_
      rintro (hocc | ⟨-, hv⟩)
      · cases hocc
      · exact hv ⟨ho, hl⟩
    · rw [shown_call_of_held ho hl]
      have hv : ¬ (g.call c).segment.Vacant := fun hv => hl hv.unheld
      simp [hv]

/-- **What is shown is what has been.** On the segment of a configuration, after any run
of calls: the segment is shown as occupied exactly if it was occupied in some state of
the run and has not been vacant since. So it is shown as occupied whenever it is
occupied and as free whenever it is vacant, and what is shown goes back to free only by
a call that leaves the segment vacant. -/
theorem shown_occupied_iff_since_vacant (cfg : SegmentConfig) (calls : List Call) :
    let g := (ofConfig cfg).run calls
    (g.occupancyDelayed = .occupied ↔ (ofConfig cfg).OccupiedSinceVacant calls) ∧
    (g.occupancy = .occupied → g.occupancyDelayed = .occupied) ∧
    (g.Vacant → g.occupancyDelayed = .free) ∧
    ∀ c, g.occupancyDelayed = .occupied → (g.call c).segment.occupancyDelayed = .free →
      (g.call c).segment.Vacant := by
  intro g
  have hg : g.core.ShownSound := shownSound_run cfg calls
  refine ⟨?_, hg.occupied, fun hv => hg.unheld hv.clear hv.unheld, fun c hbefore hafter => ?_⟩
  · induction calls using List.reverseRecOn with
    | nil =>
      refine iff_of_false (nomatch ·) ?_
      rintro ⟨before, after, hsplit, hocc, -⟩
      obtain ⟨rfl, -⟩ := List.append_eq_nil_iff.1 hsplit.symm
      cases hocc
    | append_singleton calls c ih =>
      have hprior : ((ofConfig cfg).run calls).core.ShownSound := shownSound_run cfg calls
      rw [occupiedSinceVacant_concat_iff, ← ih hprior]
      simp only [g, run_append, run_cons, run_nil]
      exact shown_call_iff hprior c
  · by_contra hv
    have hshown := (shown_call_iff hg c).2 (.inr ⟨hbefore, hv⟩)
    cases hafter.symm.trans hshown

/-- A segment that a train has left is shown as occupied for as long as it is held. -/
example :
    let g := (ofConfig { id := ⟨2⟩, name := "T2", length := 1, sensors := [⟨1⟩] }).run
      [.reserve ⟨7⟩, .setSensorState ⟨1⟩ .occupied, .setSensorState ⟨1⟩ .free]
    g.occupancyDelayed = .occupied ∧ (g.call (.release ⟨7⟩)).segment.occupancyDelayed = .free := by
  decide

end Interlocking.Segment
