/-
The reports that a segment hears.

A report that comes a second time in a row tells nothing new: the segment has written
down the state already, and so nothing changes and nobody is told (`report_report`). The
report of a sensor that the segment does not list is refused. So the segment, and what
its observers are told, depend on no more than the reports of its own sensors, in their
order and without immediate repetitions (`run_and_told_reports_eq`).

The same is true of the state that a sensor remembers, so the argument is made once, for
any step of this kind (`Indifferent`).
-/
import Interlocking.Proofs.Segment.Notices
import Interlocking.Proofs.Segment.Sensors
import Mathlib.Data.List.Destutter

set_option autoImplicit false

namespace Interlocking

/-- What a sensor says: its id and whether it is occupied. -/
abbrev SensorReport := SensorId × Occupancy

namespace SensorReport

/-- Those of some reports that are from certain sensors, in their order. Of a report that
is repeated at once only the first is left. -/
def heardFrom (p : SensorId → Prop) [DecidablePred p] (reports : List SensorReport) :
    List SensorReport :=
  (reports.filter fun r => decide (p r.1)).destutter (· ≠ ·)

/-! ## Steps that leave out what is not new -/

section Steps

variable {β : Type} {I : β → Prop} {p : SensorId → Prop} {f : β → SensorReport → β} {b : β}

/-- A step that has to do with the reports of certain sensors only, and that makes no
difference when a report comes again; both may depend on an invariant of the step. -/
structure Indifferent (I : β → Prop) (p : SensorId → Prop) (f : β → SensorReport → β) :
    Prop where
  keeps : ∀ b r, I b → I (f b r)
  other : ∀ b r, I b → ¬ p r.1 → f b r = b
  again : ∀ b r, I b → f (f b r) r = f b r

/-- Repetitions make no difference. -/
theorem Indifferent.foldl_destutter (h : Indifferent I p f) (reports : List SensorReport)
    (hb : I b) : (reports.destutter (· ≠ ·)).foldl f b = reports.foldl f b := by
  cases reports with
  | nil => rfl
  | cons r reports =>
    rw [List.destutter_cons']
    -- The report to compare with changes along the list.
    induction reports generalizing b r with
    | nil => rfl
    | cons r' reports ih =>
      by_cases hr : r = r'
      · subst hr
        rw [List.destutter'_cons_neg _ (not_not.2 rfl), ih hb, List.foldl_cons, List.foldl_cons,
          List.foldl_cons, h.again b r hb]
      · rw [List.destutter'_cons_pos _ hr, List.foldl_cons, ih (h.keeps b r hb)]
        rfl

/-- The reports of other sensors make no difference. -/
theorem Indifferent.foldl_filter [DecidablePred p] (h : Indifferent I p f)
    (reports : List SensorReport) (hb : I b) :
    (reports.filter fun r => decide (p r.1)).foldl f b = reports.foldl f b := by
  induction reports generalizing b with
  | nil => rfl
  | cons r reports ih =>
    by_cases hr : p r.1
    · rw [List.filter_cons_of_pos (by simpa using hr), List.foldl_cons, List.foldl_cons]
      exact ih (h.keeps b r hb)
    · rw [List.filter_cons_of_neg (by simpa using hr), List.foldl_cons, h.other b r hb hr]
      exact ih hb

/-- **What is heard from certain sensors** settles what steps come to that have to do with
these only. -/
theorem Indifferent.foldl_eq [DecidablePred p] (h : Indifferent I p f)
    {first second : List SensorReport} (hheard : heardFrom p first = heardFrom p second)
    (hb : I b) : first.foldl f b = second.foldl f b := by
  have hsame (reports : List SensorReport) :
      (heardFrom p reports).foldl f b = reports.foldl f b := by
    rw [heardFrom, h.foldl_destutter _ hb, h.foldl_filter reports hb]
  rw [← hsame first, hheard, hsame second]

end Steps

/-! ## What one sensor says last -/

/-- The state of a sensor after some reports, of which not all need be its own. -/
def stateAfter (s : SensorId) (state : Occupancy) (reports : List SensorReport) : Occupancy :=
  reports.foldl (fun o r => if r.1 = s then r.2 else o) state

@[simp] theorem stateAfter_nil (s : SensorId) (state : Occupancy) :
    stateAfter s state [] = state := rfl

@[simp] theorem stateAfter_cons (s : SensorId) (state : Occupancy) (r : SensorReport)
    (reports : List SensorReport) : stateAfter s state (r :: reports) =
      stateAfter s (if r.1 = s then r.2 else state) reports := rfl

theorem indifferent_state (s : SensorId) {p : SensorId → Prop} (hs : p s) :
    Indifferent (fun _ => True) p fun (o : Occupancy) r => if r.1 = s then r.2 else o where
  keeps _ _ _ := trivial
  other o r _ hr := by
    refine if_neg ?_
    rintro rfl
    exact hr hs
  again o r _ := by split <;> rfl

theorem stateAfter_eq_of_heardFrom {p : SensorId → Prop} [DecidablePred p] {s : SensorId}
    (hs : p s) (state : Occupancy) {first second : List SensorReport}
    (h : heardFrom p first = heardFrom p second) :
    stateAfter s state first = stateAfter s state second :=
  (indifferent_state s hs).foldl_eq h trivial

end SensorReport

namespace Segment

open SensorReport

variable {g : Segment} {r : SensorReport}

/-- The call by which a segment is told of a report. -/
def Call.report (r : SensorReport) : Call := .setSensorState r.1 r.2

/-! ## One report -/

@[simp] theorem sensorIds_report : (g.call (.report r)).segment.sensorIds = g.sensorIds := by
  rw [sensorIds, Call.report, sensors_setSensorState, List.map_map]
  refine List.map_congr_left fun x _ => ?_
  dsimp only [Function.comp_apply]
  split
  next h => exact h.symm
  next => rfl

/-- The report of a sensor that is not listed is refused. -/
theorem report_of_not_mem (h : r.1 ∉ g.sensorIds) : g.call (.report r) = silently false g :=
  setSensorState_of_not_mem h

/-- **The same report again** changes nothing, and nobody is told. -/
theorem report_report (g : Segment) (r : SensorReport) :
    ((g.call (.report r)).segment.call (.report r)).segment = (g.call (.report r)).segment ∧
      ((g.call (.report r)).segment.call (.report r)).notice = none := by
  by_cases hmem : r.1 ∈ g.sensorIds
  · have hknown : ∀ x ∈ (g.call (.report r)).segment.sensors, x.1 = r.1 → x.2 = r.2 := by
      intro x hx hid
      rw [Call.report, sensors_setSensorState, List.mem_map] at hx
      obtain ⟨y, -, rfl⟩ := hx
      split at hid
      next h => rw [if_pos h]
      next h => exact absurd hid h
    have hagain : (g.call (.report r)).segment.call (.report r) =
        silently true (g.call (.report r)).segment :=
      setSensorState_of_known (by rwa [sensorIds_report]) hknown
    rw [hagain]
    exact ⟨rfl, rfl⟩
  · rw [report_of_not_mem hmem, silently, report_of_not_mem hmem]
    exact ⟨rfl, rfl⟩

/-! ## A run of reports -/

/-- A segment hears a report, and what its observers are told of it goes on record. -/
def hear (x : Segment × List Snapshot) (r : SensorReport) : Segment × List Snapshot :=
  let o := x.1.call (.report r)
  (o.segment, x.2 ++ o.notice.toList)

theorem foldl_hear (g : Segment) (sent : List Snapshot) (reports : List SensorReport) :
    reports.foldl hear (g, sent) =
      (g.run (reports.map Call.report), sent ++ g.told (reports.map Call.report)) := by
  induction reports generalizing g sent with
  | nil => rw [List.map_nil, told_nil, List.append_nil]; rfl
  | cons r reports ih =>
    rw [List.foldl_cons, hear, ih, List.map_cons, run_cons, told_cons, List.append_assoc]

/-- A segment has to do with the reports of its own sensors only, and only with what is
new. The list of its sensors stays the same, so this means the same sensors all along. -/
theorem indifferent_hear (ids : List SensorId) :
    Indifferent (fun x : Segment × List Snapshot => x.1.sensorIds = ids) (· ∈ ids) hear where
  keeps x r hx := by rw [hear, sensorIds_report, hx]
  other x r hx hr := by
    rw [← hx] at hr
    simp only [hear, report_of_not_mem hr, silently, Option.toList_none, List.append_nil]
  again x r _ := by
    obtain ⟨hsame, hsilent⟩ := report_report x.1 r
    simp only [hear, hsame, hsilent, Option.toList_none, List.append_nil]

/-- **Only its own sensors, and only what is new**: this is what a segment depends on, and
what observers are told about it. -/
theorem run_and_told_reports_eq {first second : List SensorReport}
    (h : heardFrom (· ∈ g.sensorIds) first = heardFrom (· ∈ g.sensorIds) second) :
    g.run (first.map Call.report) = g.run (second.map Call.report) ∧
      g.told (first.map Call.report) = g.told (second.map Call.report) := by
  have hsame : first.foldl hear (g, []) = second.foldl hear (g, []) :=
    (indifferent_hear g.sensorIds).foldl_eq h rfl
  rw [foldl_hear, foldl_hear, List.nil_append, List.nil_append] at hsame
  exact Prod.mk.inj hsame

end Segment
end Interlocking
