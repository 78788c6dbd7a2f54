/-
The sensors that a segment lists.

A segment keeps a state for each of its sensors, and its occupancy is what these
states add up to (`Settled`). Only reports change the states, and a report that
does so adds them up again; so no call leaves a segment unsettled. A report that
changes no state stops short of that, which makes no difference on a settled
segment (`setSensorState_of_settled`).

A call that is neither a setting nor a report moves the lock, the release that
waits, and what is shown of the occupancy (`call_frame`). A report moves the
states of the sensors and the occupancy besides (`report_frame`). The rest of the
segment stays as it is.
-/
import Interlocking.Proofs.Segment.Step

set_option autoImplicit false

namespace Interlocking.Segment

variable {g g' : Segment} {c : Call} {s : SensorId} {state : Occupancy}
  {sensors : List (SensorId × Occupancy)}

/-- The occupancy is the one that the states of the sensors add up to. -/
def Settled (g : Segment) : Prop := g.occupancy = aggregate g.sensors

theorem aggregate_eq_occupied_iff :
    aggregate sensors = .occupied ↔ ∃ s, (s, .occupied) ∈ sensors := by
  rw [aggregate]
  cases hany : sensors.any fun s => s.2.isOccupied with
  | true =>
    obtain ⟨⟨s, o⟩, hmem, ho⟩ := List.any_eq_true.1 hany
    obtain rfl := isOccupied_eq_true_iff.1 ho
    exact iff_of_true rfl ⟨s, hmem⟩
  | false =>
    refine iff_of_false (nomatch ·) ?_
    rintro ⟨s, hmem⟩
    exact List.any_eq_false.1 hany _ hmem rfl

/-! ## What a call leaves alone -/

theorem refreshDelayed_eq (g : Segment) :
    refreshDelayed g = { g with occupancyDelayed := (refreshDelayed g).occupancyDelayed } := by
  rw [refreshDelayed]
  split
  · rfl
  · split <;> rfl

@[simp] theorem lock_refreshDelayed (g : Segment) : (refreshDelayed g).lock = g.lock := by
  rw [refreshDelayed_eq]

theorem settle_eq (h : g.settle = some g') :
    g' = { g with
      lock := g'.lock
      pendingRelease := g'.pendingRelease
      occupancy := aggregate g.sensors
      occupancyDelayed := g'.occupancyDelayed } := by
  simp only [settle] at h
  split at h
  · cases h
  · obtain rfl := Option.some.inj h
    rw [refreshDelayed_eq]
    split
    · rfl
    · rw [completeRelease]
      split <;> rfl

/-- Whether or not the occupancy changes, the segment is settled anew. -/
theorem setSensors_frame (sensors : List (SensorId × Occupancy)) (g : Segment) :
    ∃ k p shown, (g.setSensors sensors).segment = { g with
      sensors := sensors
      occupancy := aggregate sensors
      lock := k
      pendingRelease := p
      occupancyDelayed := shown } := by
  simp only [setSensors]
  split
  next g' hg' => exact ⟨_, _, _, settle_eq hg'⟩
  next hsame =>
    have hseen : aggregate sensors = g.occupancy := by
      simp only [settle] at hsame
      split at hsame
      next h => exact h
      · cases hsame
    exact ⟨g.lock, g.pendingRelease, g.occupancyDelayed, by rw [hseen]; rfl⟩

/-! ## What a report is -/

/-- What is known already changes nothing, and nobody is told. -/
theorem setSensorState_of_known (h : s ∈ g.sensorIds)
    (hknown : ∀ x ∈ g.sensors, x.1 = s → x.2 = state) :
    g.setSensorState s state = silently true g := by
  rw [setSensorState, if_pos h, if_pos hknown]

/-- What is new to the segment is a new list of states. -/
theorem setSensorState_of_new (h : s ∈ g.sensorIds)
    (hnew : ¬ ∀ x ∈ g.sensors, x.1 = s → x.2 = state) :
    g.setSensorState s state =
      (g.setSensors (g.sensors.map fun x => if x.1 = s then (s, state) else x)).accepted := by
  simp only [setSensorState, setSensors, if_pos h, if_neg hnew]
  split <;> rfl

theorem setSensorState_of_not_mem (h : s ∉ g.sensorIds) :
    g.setSensorState s state = silently false g := by
  rw [setSensorState, if_neg h]

/-- What is known already leaves the list of states as it is. -/
theorem map_of_known (hknown : ∀ x ∈ g.sensors, x.1 = s → x.2 = state) :
    (g.sensors.map fun x => if x.1 = s then (s, state) else x) = g.sensors := by
  refine (List.map_congr_left fun x hx => ?_).trans (List.map_id' g.sensors)
  split
  next h => rw [← hknown x hx h, ← h]
  next => rfl

theorem setSensors_of_settled (hg : g.Settled) : g.setSensors g.sensors = silently () g := by
  simp only [setSensors, settle, if_pos (show aggregate g.sensors = g.occupancy from hg.symm)]

/-- **Asking what is new is a shortcut.** On a settled segment the report of a sensor
that is listed is a new list of states, whether or not it changes one. -/
theorem setSensorState_of_settled (hg : g.Settled) (h : s ∈ g.sensorIds) :
    g.setSensorState s state =
      (g.setSensors (g.sensors.map fun x => if x.1 = s then (s, state) else x)).accepted := by
  by_cases hknown : ∀ x ∈ g.sensors, x.1 = s → x.2 = state
  · rw [setSensorState_of_known h hknown, map_of_known hknown, setSensors_of_settled hg]
    rfl
  · exact setSensorState_of_new h hknown

/-- A report leaves the segment as it is, or it is a new list of states. -/
theorem report_eq (g : Segment) (hc : c.isReport = true) :
    (g.call c).segment = g ∨ ∃ sensors, (g.call c).segment = (g.setSensors sensors).segment := by
  cases c with
  | setSensors sensors => exact .inr ⟨sensors, rfl⟩
  | setSensorState s state =>
    rw [call]
    by_cases hmem : s ∈ g.sensorIds
    · by_cases hknown : ∀ x ∈ g.sensors, x.1 = s → x.2 = state
      · rw [setSensorState_of_known hmem hknown]
        exact .inl rfl
      · rw [setSensorState_of_new hmem hknown]
        exact .inr ⟨_, rfl⟩
    · rw [setSensorState_of_not_mem hmem]
      exact .inl rfl
  | _ => cases hc

/-- **What a report leaves alone**: all but the states of the sensors and what follows
from them. -/
theorem report_frame (g : Segment) (hc : c.isReport = true) :
    ∃ sensors o k p shown, (g.call c).segment = { g with
      sensors := sensors
      occupancy := o
      lock := k
      pendingRelease := p
      occupancyDelayed := shown } := by
  rcases g.report_eq hc with h | ⟨sensors, h⟩
  · exact ⟨g.sensors, g.occupancy, g.lock, g.pendingRelease, g.occupancyDelayed, h⟩
  · obtain ⟨k, p, shown, hset⟩ := setSensors_frame sensors g
    exact ⟨sensors, aggregate sensors, k, p, shown, h.trans hset⟩

/-! ## What another call leaves alone -/

theorem reserve_frame (l : LocoId) (g : Segment) :
    ∃ k p, (g.call (.reserve l)).segment = { g with lock := k, pendingRelease := p } := by
  simp only [call, tryReserve]
  split
  next h =>
    split at h
    · cases h
    · obtain ⟨k, -, hk⟩ := Option.map_eq_some_iff.1 h
      split at hk <;> cases hk <;> exact ⟨_, _, rfl⟩
  next => exact ⟨g.lock, g.pendingRelease, rfl⟩

theorem release_frame (l : LocoId) (g : Segment) :
    ∃ k p shown, (g.release l).segment =
      { g with lock := k, pendingRelease := p, occupancyDelayed := shown } := by
  rw [release]
  split
  · exact ⟨g.lock, g.pendingRelease, g.occupancyDelayed, rfl⟩
  · split
    · exact ⟨g.lock, some l, g.occupancyDelayed, rfl⟩
    · exact ⟨.free, none, _, refreshDelayed_eq _⟩

theorem unreserve_frame (l : LocoId) (g : Segment) :
    ∃ k shown, (g.unreserve l).segment = { g with lock := k, occupancyDelayed := shown } := by
  rw [unreserve]
  split
  · exact ⟨_, _, refreshDelayed_eq _⟩
  · exact ⟨g.lock, g.occupancyDelayed, rfl⟩

/-- **What a call leaves alone**, if it is neither a setting nor a report. -/
theorem call_frame (g : Segment) (hsetting : c.isSetting = false) (hreport : c.isReport = false) :
    ∃ k p shown, (g.call c).segment =
      { g with lock := k, pendingRelease := p, occupancyDelayed := shown } := by
  cases c with
  | reserve l =>
    obtain ⟨k, p, h⟩ := reserve_frame l g
    exact ⟨k, p, g.occupancyDelayed, h⟩
  | reserveForce l =>
    simp only [call, reserveForce]
    split <;> exact ⟨.reserved l, none, g.occupancyDelayed, rfl⟩
  | lock l =>
    simp only [call, tryLock]
    split <;> exact ⟨_, g.pendingRelease, g.occupancyDelayed, rfl⟩
  | unlock l =>
    simp only [call, unlock]
    split <;> exact ⟨_, g.pendingRelease, g.occupancyDelayed, rfl⟩
  | release l => exact release_frame l g
  | releaseForce l => exact ⟨.free, none, _, refreshDelayed_eq _⟩
  | unreserve l =>
    obtain ⟨k, shown, h⟩ := unreserve_frame l g
    exact ⟨k, g.pendingRelease, shown, h⟩
  | setSensorState | setSensors => cases hreport
  | _ => cases hsetting

/-! ## What a call does to the sensors -/

theorem sensors_call (hc : c.isReport = false) : (g.call c).segment.sensors = g.sensors := by
  cases hs : c.isSetting with
  | false =>
    obtain ⟨k, p, shown, h⟩ := g.call_frame hs hc
    rw [h]
  | true =>
    obtain ⟨_, _, _, _, _, _, _, _, h⟩ := g.setting_frame hs
    rw [h]

theorem occupancy_call (hc : c.isReport = false) : (g.call c).segment.occupancy = g.occupancy := by
  obtain ⟨answer, k, heff, -, -, -, hocc, -⟩ := g.call_parts c
  rw [hocc]
  cases heff with
  | unmoved h | entered h | cleared h | fired h => cases hc.symm.trans h
  | _ => rfl

theorem sensors_setSensors : (g.call (.setSensors sensors)).segment.sensors = sensors := by
  obtain ⟨k, p, shown, h⟩ := setSensors_frame sensors g
  simp only [call, Outcome.accepted, h]

/-- A report of a sensor that the segment does not list changes no state. -/
theorem sensors_setSensorState :
    (g.call (.setSensorState s state)).segment.sensors =
      g.sensors.map fun x => if x.1 = s then (s, state) else x := by
  by_cases hknown : ∀ x ∈ g.sensors, x.1 = s → x.2 = state
  · rw [map_of_known hknown]
    by_cases h : s ∈ g.sensorIds
    · simp only [call, setSensorState_of_known h hknown, silently]
    · simp only [call, setSensorState_of_not_mem h, silently]
  · have h : s ∈ g.sensorIds := Decidable.byContradiction fun hnone =>
      hknown fun x hx heq => absurd (List.mem_map.2 ⟨x, hx, heq⟩) hnone
    simp only [call, setSensorState_of_new h hknown]
    exact sensors_setSensors

theorem settled_setSensors : (g.call (.setSensors sensors)).segment.Settled := by
  obtain ⟨k, p, shown, h⟩ := setSensors_frame sensors g
  simp only [Settled, call, Outcome.accepted, h]

/-- **No call leaves a segment unsettled.** -/
theorem Settled.call (hg : g.Settled) (c : Call) : (g.call c).segment.Settled := by
  cases hc : c.isReport with
  | false =>
    rw [Settled, sensors_call hc, occupancy_call hc]
    exact hg
  | true =>
    cases c with
    | setSensors sensors => exact settled_setSensors
    | setSensorState s state =>
      by_cases h : s ∈ g.sensorIds
      · simp only [Segment.call, setSensorState_of_settled hg h]
        exact settled_setSensors
      · simp only [Segment.call, setSensorState_of_not_mem h]
        exact hg
    | _ => cases hc

theorem Settled.run (hg : g.Settled) (calls : List Call) : (g.run calls).Settled :=
  List.foldlRecOn calls _ hg fun _ hg c _ => hg.call c

/-- The sensors of a new segment are free, and so is the segment. -/
theorem settled_ofConfig (cfg : SegmentConfig) : (ofConfig cfg).Settled := by
  have hfree : (ofConfig cfg).sensors.any (fun s => s.2.isOccupied) = false := by
    refine List.any_eq_false.2 fun x hx => ?_
    obtain ⟨s, -, rfl⟩ := List.mem_map.1 hx
    exact Bool.false_ne_true
  rw [Settled, aggregate, hfree]
  rfl

theorem Settled.occupied_iff (hg : g.Settled) :
    g.occupancy = .occupied ↔ ∃ s, (s, .occupied) ∈ g.sensors := by
  rw [hg, aggregate_eq_occupied_iff]

theorem Settled.free_iff (hg : g.Settled) :
    g.occupancy = .free ↔ ∀ s, (s, .occupied) ∉ g.sensors := by
  rw [← not_exists, ← hg.occupied_iff]
  cases g.occupancy <;> simp

theorem sensors_run {calls : List Call} (hcalls : ∀ c ∈ calls, c.isReport = false) :
    (g.run calls).sensors = g.sensors :=
  List.foldlRecOn calls (motive := fun g' : Segment => g'.sensors = g.sensors) _ rfl
    fun _ hg' c hc => (sensors_call (hcalls c hc)).trans hg'

end Interlocking.Segment
