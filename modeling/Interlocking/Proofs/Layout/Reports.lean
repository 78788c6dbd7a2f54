/-
Reports of different segments commute.

A report goes to the sensor and to the segment that has it, and to nothing else, so a run
of reports can be told thing by thing (`Heard`): every segment makes the calls of all the
reports and refuses those of other sensors, observers are told about it what these calls
tell, and a sensor has the state of its own last report. None of this depends on how the
reports of one segment lie between those of another, or on how often a report is repeated
at once, and that is the theorem.

Reports of the same segment do not commute: the first that clears it completes a release
that waits.
-/
import Interlocking.Proofs.Layout.Pictures
import Interlocking.Proofs.Layout.SensorOwnership
import Interlocking.Proofs.Segment.Reports

set_option autoImplicit false

namespace Interlocking.Layout

open SensorReport

variable {L M N : Layout} {t : SegmentId} {g : Segment} {r : SensorReport}
  {reports more : List SensorReport}

/-- The operation that applies a report. -/
def Call.report (r : SensorReport) : Call := .setSensorState r.1 r.2

/-! ## What a run of reports does -/

/-- From `L` to `M`, some reports were applied: told for each segment, each sensor and the
observers of each segment. -/
structure Heard (L : Layout) (reports : List SensorReport) (M : Layout) : Prop where
  segments : ∀ t, M.segments.get? t =
    (L.segments.get? t).map fun g => g.run (reports.map Segment.Call.report)
  sensors : ∀ s, M.sensors.get? s =
    (L.sensors.get? s).map fun x => { x with state := stateAfter s x.state reports }
  kept : M.notices = L.notices ++ L.news M
  told : ∀ t, about t (L.news M) =
    (L.segments.get? t).elim [] fun g => g.told (reports.map Segment.Call.report)
  rest : M = { L with sensors := M.sensors, segments := M.segments, notices := M.notices }

theorem Heard.nil : L.Heard [] L where
  segments t := by simp
  sensors s := by simp
  kept := by simp [news]
  told t := by cases L.segments.get? t <;> simp [news, about]
  rest := rfl

theorem Heard.trans (h : L.Heard reports M) (h' : M.Heard more N) :
    L.Heard (reports ++ more) N := by
  obtain ⟨hnews, hkept⟩ := news_trans h.kept h'.kept
  refine ⟨fun t => ?_, fun s => ?_, hkept, fun t => ?_, ?_⟩
  · rw [h'.segments, h.segments, Option.map_map, List.map_append]
    simp only [Segment.run_append, Function.comp_def]
  · rw [h'.sensors, h.sensors, Option.map_map]
    simp only [stateAfter, List.foldl_append, Function.comp_def]
  · rw [hnews, about_append, h.told, h'.told, h.segments]
    cases L.segments.get? t with
    | none => rfl
    | some g =>
      rw [List.map_append]
      exact (g.told_append _ _).symm
  · rw [h'.rest, h.rest]

/-! ## One report -/

/-- A segment that does not have the sensor has nothing to do with the report. -/
theorem Wired.unheeded (h : L.Wired)
    (hr : ∀ x, L.sensors.get? r.1 = some x → x.owner ≠ some t) :
    ((L.segments.get? t).map fun g => g.run [.report r]) = L.segments.get? t ∧
      ((L.segments.get? t).elim [] fun g => g.told [.report r]) = [] := by
  cases hg : L.segments.get? t with
  | none => exact ⟨rfl, rfl⟩
  | some g =>
    have hrefused : g.call (.report r) = Segment.silently false g := by
      refine Segment.report_of_not_mem fun hmem => ?_
      obtain ⟨x, hx, howner⟩ := (h.segments t g hg).mem_sensorIds.1 hmem
      exact hr x hx howner
    rw [Option.map_some, Option.elim_some, Segment.run_cons, Segment.told_singleton, hrefused]
    exact ⟨rfl, rfl⟩

/-- A report of a sensor that no segment has. -/
theorem Wired.heard_unowned (h : L.Wired)
    (hr : ∀ x, L.sensors.get? r.1 = some x → x.owner = none)
    (hsensors : ∀ s, M.sensors.get? s =
      (L.sensors.get? s).map fun x => { x with state := stateAfter s x.state [r] })
    (hM : M = { L with sensors := M.sensors }) : L.Heard [r] M := by
  have hunheeded : ∀ t, _ := fun t => h.unheeded (t := t) fun x hx howner => by
    cases (hr x hx).symm.trans howner
  have hnotices : M.notices = L.notices := by rw [hM]
  have hnews : L.news M = [] := news_eq_nil hnotices
  refine ⟨fun t => ?_, hsensors, by rw [hnews, hnotices, List.append_nil], fun t => ?_, ?_⟩
  · rw [List.map_singleton, (hunheeded t).1, hM]
  · rw [hnews]
    exact (hunheeded t).2.symm
  · rw [hM]

/-- The report of a sensor is passed on to the segment that has it. -/
theorem setSensorState_of_owner {x : Sensor} (hcalm : L.reaction = none)
    (hx : L.sensors.get? r.1 = some x) (howner : x.owner = some t)
    (hg : L.segments.get? t = some g) : (L.setSensorState r.1 r.2).2 = { L with
      sensors := L.sensors.insert r.1 { x with state := r.2 }
      segments := L.segments.insert t (g.call (.report r)).segment
      notices := L.notices ++ (g.call (.report r)).notice.toList } := by
  rw [setSensorState, hx]
  dsimp only [Sensor.report]
  rw [howner]
  simp only [onSegment, hg]
  rw [notifyAll_of_calm]
  · rfl
  · exact hcalm

/-- The state of the sensor is the only one that is written. -/
theorem get?_insert_report {x : Sensor} (hx : L.sensors.get? r.1 = some x) (s : SensorId) :
    (L.sensors.insert r.1 { x with state := r.2 }).get? s =
      (L.sensors.get? s).map fun x => { x with state := stateAfter s x.state [r] } := by
  rw [Registry.get?_insert]
  by_cases hs : s = r.1
  · subst hs
    simp [hx]
  · simp [hs, Ne.symm hs]

/-- A report of a sensor that a segment has. -/
theorem Wired.heard_owned (h : L.Wired) (hL : L.Orderly) {x : Sensor}
    (hx : L.sensors.get? r.1 = some x) (howner : x.owner = some t) :
    L.Heard [r] (L.setSensorState r.1 r.2).2 := by
  obtain ⟨g, hg, -⟩ := h.listed hx howner
  have hothers : ∀ t', t' ≠ t → _ := fun t' ht =>
    h.unheeded (r := r) (t := t') (by simp [hx, howner, Ne.symm ht])
  have hsent : ∀ s ∈ (g.call (.report r)).notice.toList, s.id = t := by
    intro s hs
    rw [← Segment.told_singleton] at hs
    exact (Segment.id_of_mem_told hs).trans (hL.id_segment t g hg)
  rw [setSensorState_of_owner hL.calm hx howner hg]
  refine ⟨fun t' => ?_, get?_insert_report hx, by rw [news_eq rfl], fun t' => ?_, rfl⟩
  · by_cases ht : t' = t
    · subst ht
      rw [Registry.get?_insert_self, hg]
      rfl
    · rw [List.map_singleton, (hothers t' ht).1, Registry.get?_insert_of_ne _ ht]
  · rw [news_eq rfl]
    by_cases ht : t' = t
    · subst ht
      rw [about_eq_self hsent, hg]
      exact (g.told_singleton _).symm
    · rw [about_eq_nil fun s hs heq => ht (heq.symm.trans (hsent s hs))]
      exact (hothers t' ht).2.symm

/-- **One report.** -/
theorem heard_report (hL : L.Orderly) (hwired : L.Wired) (r : SensorReport) :
    L.Heard [r] (L.call (.report r)).2 := by
  simp only [Call.report, call, answered]
  cases hx : L.sensors.get? r.1 with
  | none =>
    simp only [setSensorState, hx]
    refine hwired.heard_unowned (by simp [hx]) (fun s => ?_) rfl
    by_cases hs : s = r.1
    · subst hs
      simp [hx]
    · simp [Ne.symm hs]
  | some x =>
    by_cases howner : ∃ t, x.owner = some t
    · obtain ⟨t, howner⟩ := howner
      exact hwired.heard_owned hL hx howner
    · have hnone : x.owner = none :=
        Option.eq_none_iff_forall_ne_some.2 fun t hsome => howner ⟨t, hsome⟩
      rw [setSensorState, hx]
      dsimp only [Sensor.report]
      split
      next => exact hwired.heard_unowned (by simp [hx, hnone]) (get?_insert_report hx) rfl
      next t hsome => exact absurd ⟨t, hsome⟩ howner

/-! ## Every run of reports -/

/-- **A run of reports**, told thing by thing. -/
theorem heard_run (hL : L.Reachable) (reports : List SensorReport) :
    L.Heard reports (L.run (reports.map Call.report)) := by
  induction reports generalizing L with
  | nil => exact .nil
  | cons r reports ih =>
    obtain ⟨order, horder⟩ := hL.addedInOrder
    have hfirst := heard_report horder.orderly hL.wired r
    exact hfirst.trans (ih (hL.call (.report r)))

/-- Reports that are the same to every segment and to every sensor that belongs to none,
up to immediate repetitions. -/
structure HearsAlike (L : Layout) (first second : List SensorReport) : Prop where
  segments : ∀ t g, L.segments.get? t = some g →
    heardFrom (· ∈ g.sensorIds) first = heardFrom (· ∈ g.sensorIds) second
  unowned : ∀ s x, L.sensors.get? s = some x → x.owner = none →
    heardFrom (· = s) first = heardFrom (· = s) second

/-- **Reports of different segments commute.** -/
theorem reports_commute_between_segments (hL : L.Reachable) {first second : List SensorReport}
    (h : L.HearsAlike first second) :
    let M := L.run (first.map Call.report)
    let N := L.run (second.map Call.report)
    { M with notices := [] } = { N with notices := [] } ∧
      ∀ t, about t (L.news M) = about t (L.news N) := by
  intro M N
  have hM : L.Heard first M := heard_run hL first
  have hN : L.Heard second N := heard_run hL second
  have hsame : ∀ t g, L.segments.get? t = some g → _ := fun t g hg =>
    Segment.run_and_told_reports_eq (h.segments t g hg)
  have hsegments : M.segments = N.segments := by
    refine Registry.ext_get? fun t => ?_
    rw [hM.segments, hN.segments]
    exact Option.map_congr fun g hg => (hsame t g hg).1
  have hsensors : M.sensors = N.sensors := by
    refine Registry.ext_get? fun s => ?_
    rw [hM.sensors, hN.sensors]
    refine Option.map_congr fun x hx => ?_
    have hstate : stateAfter s x.state first = stateAfter s x.state second := by
      cases howner : x.owner with
      | none => exact stateAfter_eq_of_heardFrom (p := (· = s)) rfl _ (h.unowned s x hx howner)
      | some t =>
        obtain ⟨g, hg, hs⟩ := hL.wired.listed hx howner
        exact stateAfter_eq_of_heardFrom hs _ (h.segments t g hg)
    rw [hstate]
  refine ⟨?_, fun t => ?_⟩
  · rw [hM.rest, hN.rest, hsegments, hsensors]
  · rw [hM.told, hN.told]
    cases hg : L.segments.get? t with
    | none => rfl
    | some g => exact (hsame t g hg).2

/-- Two orders in which reports of two segments and of a sensor without one may come, one
of them with repetitions. The first segment clears, which completes a release that waits,
and is entered again. Its own reports must not change places: the last conjunct has them
in another order, in which the segment never clears and the loco stays. -/
theorem reports_commute_between_segments_while_clearing :
    let sensor (s : UInt32) : SensorConfig := { id := ⟨s⟩, name := "S", address := 1 }
    let L := empty.run
      [.addSensor (sensor 1), .addSensor (sensor 2), .addSensor (sensor 3), .addSensor (sensor 4),
       .addSegment
         { id := ⟨1⟩, name := "T1", length := 1, sensors := [⟨1⟩, ⟨2⟩], releaseWhenFree := true },
       .addSegment { id := ⟨2⟩, name := "T2", length := 1, sensors := [⟨3⟩] },
       .reserve ⟨1⟩ ⟨7⟩, .setSensorState ⟨1⟩ .occupied, .release ⟨1⟩ ⟨7⟩]
    let first : List SensorReport :=
      [(⟨1⟩, .free), (⟨2⟩, .occupied), (⟨3⟩, .occupied), (⟨3⟩, .free), (⟨4⟩, .occupied)]
    let second : List SensorReport :=
      [(⟨4⟩, .occupied), (⟨3⟩, .occupied), (⟨1⟩, .free), (⟨3⟩, .occupied), (⟨1⟩, .free),
       (⟨3⟩, .free), (⟨2⟩, .occupied), (⟨4⟩, .occupied)]
    let swapped : List SensorReport := [(⟨2⟩, .occupied), (⟨1⟩, .free)]
    let M := L.run (first.map Call.report)
    let N := L.run (second.map Call.report)
    L.HearsAlike first second ∧
      { M with notices := [] } = { N with notices := [] } ∧
      about ⟨1⟩ (L.news M) = about ⟨1⟩ (L.news N) ∧
      (about ⟨1⟩ (L.news N)).map (fun s => (s.lock, s.occupancy)) =
        [(.free, .free), (.free, .occupied)] ∧
      M.notices ≠ N.notices ∧
      ((L.run (swapped.map Call.report)).segments.get? ⟨1⟩).map Segment.lock =
        some (.reserved ⟨7⟩) := by
  intro sensor L first second swapped M N
  have hL : L.Reachable := (Reachable.start .doNotCare .silent).run _
  have halike : L.HearsAlike first second := by
    have hsegments : ∀ p ∈ L.segments.entries,
        heardFrom (· ∈ p.2.sensorIds) first = heardFrom (· ∈ p.2.sensorIds) second := by decide
    have hunowned : ∀ p ∈ L.sensors.entries, p.2.owner = none →
        heardFrom (· = p.1) first = heardFrom (· = p.1) second := by decide
    exact ⟨fun t g hg => hsegments _ ((Registry.get?_eq_some_iff _ t g).1 hg),
      fun s x hx => hunowned _ ((Registry.get?_eq_some_iff _ s x).1 hx)⟩
  obtain ⟨hstate, hsent⟩ := reports_commute_between_segments hL halike
  exact ⟨halike, hstate, hsent ⟨1⟩, by decide, by decide, by decide⟩

end Interlocking.Layout
