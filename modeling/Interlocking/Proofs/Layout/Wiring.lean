/-
What one operation does to sensors and locos.

A sensor and the segment that lists it know of each other, so what an operation
does to sensors is told together with what it does to the sensors that segments
list. `Affects` names the possibilities, and `affects_call` says that there are
no others. Most operations do nothing of the kind: no sensor changes, and the
calls that they make on segments bring no reports (`Unheard`).
-/
import Interlocking.Proofs.Layout.Attaching
import Interlocking.Proofs.Layout.Step
import Interlocking.Proofs.Segment.Sensors

set_option autoImplicit false

namespace Interlocking

/-- Whether a call brings no report. -/
def Deed.Quiet : Deed → Prop
  | .segment _ c => c.isReport = false
  | .accessory _ _ => True

namespace Layout

variable {L M : Layout} {t : SegmentId} {s : SensorId}

/-! ## Calls on one segment -/

theorem onSegment_eq {α : Type} (hcalm : L.reaction = none) (t : SegmentId) (unknown : α)
    (change : Segment → Segment.Outcome α) :
    ∃ segments notices, (L.onSegment t unknown change).2 =
      { L with segments := segments, notices := notices } := by
  rw [onSegment]
  split
  · exact ⟨L.segments, L.notices, rfl⟩
  next g _ =>
    have hnext : Layout.reaction
        { L with segments := L.segments.insert t (change g).segment } = none := hcalm
    dsimp only
    rw [notifyAll_of_calm hnext]
    exact ⟨_, _, rfl⟩

theorem get?_onSegment {α : Type} (hcalm : L.reaction = none) (unknown : α)
    (change : Segment → Segment.Outcome α) (t' : SegmentId) :
    (L.onSegment t unknown change).2.segments.get? t' =
      (L.segments.get? t').map fun g => if t' = t then (change g).segment else g := by
  rw [onSegment]
  cases hg : L.segments.get? t with
  | none =>
    by_cases ht : t' = t
    · rw [ht, hg]
      rfl
    · simp [ht]
  | some g =>
    have hnext : Layout.reaction
        { L with segments := L.segments.insert t (change g).segment } = none := hcalm
    dsimp only
    rw [notifyAll_of_calm hnext, Registry.get?_insert]
    by_cases ht : t' = t
    · subst ht
      simp [hg]
    · simp [ht]

theorem releaseClaim_eq (hcalm : L.reaction = none) (l : LocoId) (c : Claim) :
    ∃ segments accessories notices, L.releaseClaim l c =
      { L with segments := segments, accessories := accessories, notices := notices } := by
  cases c with
  | segment t =>
    obtain ⟨segments, notices, h⟩ := onSegment_eq hcalm t false fun g => g.call (.release l)
    exact ⟨segments, L.accessories, notices, h⟩
  | accessory id =>
    rw [releaseClaim, callAccessory]
    split <;> exact ⟨L.segments, _, L.notices, rfl⟩

theorem releaseHeld_eq (hcalm : L.reaction = none) (l : LocoId) (cs : List Claim) :
    ∃ segments accessories notices, L.releaseHeld l cs =
      { L with segments := segments, accessories := accessories, notices := notices } := by
  induction cs generalizing L with
  | nil => exact ⟨L.segments, L.accessories, L.notices, rfl⟩
  | cons c cs ih =>
    rw [releaseHeld]
    split
    · obtain ⟨segments, accessories, notices, hone⟩ := releaseClaim_eq hcalm l c
      rw [hone]
      exact ih (L := { L with segments, accessories, notices }) hcalm
    · exact ih hcalm

/-! ## Every operation -/

/-- No report was heard: the sensors and the locos are as before, and so are the
segments but for calls that bring no reports. -/
structure Unheard (L M : Layout) : Prop where
  segments : ∀ t, ∃ calls : List Segment.Call, (∀ c ∈ calls, c.isReport = false) ∧
    M.segments.get? t = (L.segments.get? t).map fun g => g.run calls
  sensors : M.sensors = L.sensors
  locos : M.locos = L.locos

theorem Called.unheard (h : L.Called Deed.Quiet M) (hsensors : M.sensors = L.sensors)
    (hlocos : M.locos = L.locos) : L.Unheard M :=
  ⟨h.segments, hsensors, hlocos⟩

theorem Unheard.refl (L : Layout) : L.Unheard L where
  segments t := ⟨[], by simp, by simp⟩
  sensors := rfl
  locos := rfl

/-- Changing segments without calling them is a call like any other, if it is one
that a second time makes no difference. -/
theorem Unheard.modifySegments (routes : Registry RouteId Route) (ids : List SegmentId)
    {change : Segment → Segment} {c : Segment.Call} (hc : c.isReport = false)
    (hchange : ∀ g, change g = (g.call c).segment) (hagain : ∀ g, change (change g) = change g) :
    L.Unheard (modifySegments ids change { L with routes := routes }) := by
  refine ⟨fun t => ?_, by rw [modifySegments_eq], by rw [modifySegments_eq]⟩
  rw [get?_modifySegments hagain]
  by_cases ht : t ∈ ids
  · refine ⟨[c], by simpa using hc, ?_⟩
    simp only [if_pos ht, hchange]
    rfl
  · exact ⟨[], by simp, by simp [ht]⟩

/-- What an operation does to sensors and locos. -/
inductive Affects (L : Layout) : Layout → Prop where
  | unheard {M : Layout} (h : L.Unheard M) : Affects L M
  | addsSensor (c : SensorConfig) (hnew : L.sensors.get? c.id = none) :
      Affects L { L with sensors := L.sensors.insert c.id (.ofConfig c) }
  | deletesSensor {s : SensorId} {x : Sensor} (hx : L.sensors.get? s = some x)
      (hfree : x.owner = none)
      (hunwatched : ∀ r ∈ L.routes.values, s ∉ r.config.speedSensors.toList) :
      Affects L { L with sensors := L.sensors.erase s }
  /-- A sensor reports, and the segment that has it is told. -/
  | hears {M : Layout} {s : SensorId} {x : Sensor} (state : Occupancy)
      (hx : L.sensors.get? s = some x)
      (hsensors : M.sensors = L.sensors.insert s { x with state := state })
      (hsegments : ∀ t, M.segments.get? t = (L.segments.get? t).map fun g =>
        if x.owner = some t then (g.call (.setSensorState s state)).segment else g)
      (hlocos : M.locos = L.locos) : Affects L M
  /-- A segment, a new one or an old one, gets a list of sensors with the states
  that they have; sensors that it had and that are not listed are let go. -/
  | wires {M : Layout} {t : SegmentId} {g : Segment} (ids dropped : List SensorId)
      (hids : L.Wirable t ids) (hdropped : ∀ s ∈ dropped, s ∉ ids)
      (hold : ∀ g', L.segments.get? t = some g' → ∀ s ∈ g'.sensorIds, s ∈ ids ∨ s ∈ dropped)
      (hsensors : ∀ s, M.sensors.get? s = (L.sensors.get? s).map fun x =>
        if s ∈ ids then { x with owner := some t } else if s ∈ dropped then x.detach t else x)
      (hsegments : ∀ t', M.segments.get? t' = if t' = t then some g else L.segments.get? t')
      (hg : g.sensors = L.sensorStates ids) (hsettled : g.Settled)
      (hlocos : M.locos = L.locos) : Affects L M
  /-- A segment goes and lets go of its sensors. -/
  | unwires {M : Layout} {t : SegmentId} {g : Segment} (hg : L.segments.get? t = some g)
      (hsensors : ∀ s, M.sensors.get? s = (L.sensors.get? s).map fun x =>
        if s ∈ g.sensorIds then x.detach t else x)
      (hsegments : M.segments = L.segments.erase t) (hlocos : M.locos = L.locos) : Affects L M
  | addsLoco (c : Loco) : Affects L { L with locos := L.locos.insert c.id c }
  | deletesLoco (l : LocoId) : Affects L { L with locos := L.locos.erase l }

theorem Affects.refl (L : Layout) : L.Affects L := .unheard (.refl L)

theorem affects_addSensor (c : SensorConfig) : L.Affects (L.addSensor c).2 := by
  rw [addSensor]
  split
  next => exact .refl L
  next hnew => exact .addsSensor c (get?_eq_none_of_contains hnew)

theorem affects_deleteSensor (s : SensorId) : L.Affects (L.deleteSensor s).2 := by
  rw [deleteSensor]
  split
  · exact .refl L
  next x hx =>
    split
    · exact .refl L
    next hfree =>
      rw [Bool.or_eq_true, List.any_eq_true] at hfree
      push Not at hfree
      refine .deletesSensor hx (by simpa using hfree.1) fun r hr => ?_
      simpa using hfree.2 r hr

theorem affects_addAccessory (c : AccessoryConfig) : L.Affects (L.addAccessory c).2 := by
  rw [addAccessory]
  split
  · exact .refl L
  · exact .unheard ⟨(Unheard.refl L).segments, rfl, rfl⟩

theorem affects_deleteAccessory (id : AccessoryId) : L.Affects (L.deleteAccessory id).2 := by
  rw [deleteAccessory]
  split
  · exact .refl L
  · split
    · exact .refl L
    · exact .unheard ⟨(Unheard.refl L).segments, rfl, rfl⟩

theorem affects_deleteLoco (l : LocoId) : L.Affects (L.deleteLoco l).2 := by
  rw [deleteLoco]
  split
  · exact .refl L
  · split
    · exact .refl L
    · exact .deletesLoco l

theorem affects_addSegment (hcalm : L.reaction = none) (c : SegmentConfig) :
    L.Affects (L.addSegment c).2 := by
  rw [addSegment]
  split
  · exact .refl L
  split
  · exact .refl L
  next hnew =>
    have hgives := givesAll (L := L) c.id c.sensors
    generalize L.attachAll c.id c.sensors = result at hgives
    cases hgives with
    | nothing => exact .refl L
    | @all M hids h =>
      -- A notice changes nothing that is of interest here.
      have hM : M.reaction = none := by
        rw [h.rest]
        exact hcalm
      have hsegments : M.segments = L.segments := by rw [h.rest]
      dsimp only
      rw [notifyAll_of_calm hM]
      refine .wires (t := c.id) c.sensors [] hids (by simp) (fun g' hg' => ?_) (fun s => ?_)
        (fun t' => ?_) (Segment.sensors_setSensors (g := Segment.ofConfig c))
        (Segment.settled_setSensors (g := Segment.ofConfig c)) (by rw [h.rest])
      · cases (get?_eq_none_of_contains hnew).symm.trans hg'
      · simpa using h.sensors s
      · rw [Registry.get?_insert, hsegments]
        rfl

/-- Setting the sensors is the last of the calls, and the only report. -/
theorem run_settingCalls (g : Segment) (c : SegmentConfig) (sensors : List (SensorId × Occupancy)) :
    (g.run (settingCalls c sensors)).sensors = sensors ∧
      (g.run (settingCalls c sensors)).Settled := by
  rw [settingCalls]
  simp only [Segment.run_cons, Segment.run_nil]
  exact ⟨Segment.sensors_setSensors, Segment.settled_setSensors⟩

theorem affects_updateSegment (hcalm : L.reaction = none) (c : SegmentConfig) :
    L.Affects (L.updateSegment c).2 := by
  have hupdates := updates hcalm c
  generalize L.updateSegment c = result at hupdates
  cases hupdates with
  | refused e _ => exact .refl L
  | @done g M h =>
    have hset := run_settingCalls g c (L.sensorStates c.sensors)
    refine .wires (t := c.id) c.sensors (g.sensorIds.filter (· ∉ c.sensors)) h.wirable (by simp)
      (fun g' hg' s hs => ?_) (fun s => ?_) (fun t' => ?_) hset.1 hset.2 (by rw [h.rest])
    · obtain rfl := Option.some.inj (h.registered.symm.trans hg')
      by_cases hkept : s ∈ c.sensors <;> simp [hkept, hs]
    · rw [h.sensors]
      refine Option.map_congr fun x _ => ?_
      by_cases hs : s ∈ c.sensors <;> simp [hs]
    · rw [h.rest, Registry.get?_insert]

theorem affects_deleteSegment (t : SegmentId) : L.Affects (L.deleteSegment t).2 := by
  rw [deleteSegment]
  split
  · exact .refl L
  next g hg =>
    split
    · exact .refl L
    · refine .unwires hg (fun s => get?_detachAll) ?_ ?_
      · dsimp only
        rw [detachAll_eq]
      · dsimp only
        rw [detachAll_eq]

theorem unheard_addRoute (c : RouteConfig) : L.Unheard (L.addRoute c).2 := by
  rw [addRoute]
  split
  · exact .refl L
  · split
    · exact .refl L
    · exact .modifySegments _ _ (c := .addRoute c.id c.priority) rfl (fun _ => rfl)
        fun _ => Segment.addRoute_addRoute

theorem affects_deleteRoute (r : RouteId) : L.Affects (L.deleteRoute r).2 := by
  rw [deleteRoute]
  split
  · exact .refl L
  · exact .unheard (.modifySegments _ _ (c := .removeRoute r) rfl (fun _ => rfl)
      fun _ => Segment.removeRoute_removeRoute)

theorem affects_callSegment (hcalm : L.reaction = none) (t : SegmentId) {c : Segment.Call}
    (hc : c.isReport = false) : L.Affects (L.callSegment t c).2 := by
  have hcalled : L.Called Deed.Quiet (L.callSegment t c).2 := .callSegment hcalm hc
  obtain ⟨segments, notices, h⟩ := onSegment_eq hcalm t false fun g => g.call c
  exact .unheard (hcalled.unheard (by rw [callSegment, h]) (by rw [callSegment, h]))

theorem affects_setSensorState (hcalm : L.reaction = none) (s : SensorId) (state : Occupancy) :
    L.Affects (L.setSensorState s state).2 := by
  rw [setSensorState]
  split
  · exact .refl L
  next x hx =>
    dsimp only [Sensor.report]
    split
    next hnone =>
      refine .hears state hx rfl (fun t => ?_) rfl
      simp [hnone]
    next t hsome =>
      have hcalm' : Layout.reaction
          { L with sensors := L.sensors.insert s { x with state := state } } = none := hcalm
      obtain ⟨segments, notices, h⟩ :=
        onSegment_eq hcalm' t true (Segment.setSensorState s state)
      refine .hears state hx (by rw [h]) (fun t' => ?_) (by rw [h])
      rw [get?_onSegment hcalm', hsome]
      congr 1
      funext g
      by_cases ht : t' = t
      · subst ht
        simp [Segment.call]
      · simp [ht, Ne.symm ht]

theorem affects_reserveRoute (hL : L.Sound) (r : RouteId) (l : LocoId) :
    L.Affects (L.reserveRoute r l).2 := by
  rw [reserveRoute]
  split
  · exact .refl L
  next route _ =>
    dsimp only
    split
    · have htakes := takesAll hL l route.config.claims
      generalize L.takeAll l route.config.claims = result at htakes
      cases htakes with
      | all hcs h =>
        have hcalled : L.Called Deed.Quiet _ := h.called hL hcs (fun _ => rfl) fun _ => trivial
        exact .unheard (hcalled.unheard (by rw [h.rest]) (by rw [h.rest]))
      | nothing => exact .refl L
    · exact .refl L

theorem affects_lockRoute (hcalm : L.reaction = none) (r : RouteId) (l : LocoId) :
    L.Affects (L.lockRoute r l).2 := by
  cases hr : L.routes.get? r with
  | none =>
    rw [lockRoute, hr]
    exact .refl L
  | some route =>
    have hlocks := locksRoute_lockRoute hcalm hr l
    generalize L.lockRoute r l = result at hlocks
    cases hlocks with
    | all hheld h =>
      have hcalled : L.Called Deed.Quiet _ :=
        h.called hheld (fun _ => rfl) (fun _ => trivial) fun _ _ => trivial
      exact .unheard (hcalled.unheard (by rw [h.rest]) (by rw [h.rest]))
    | nothing => exact .refl L

theorem affects_releaseRoute (hcalm : L.reaction = none) (r : RouteId) (l : LocoId) :
    L.Affects (L.releaseRoute r l).2 := by
  rw [releaseRoute]
  split
  · exact .refl L
  next route _ =>
    dsimp only
    split
    · have hcalled : L.Called Deed.Quiet (L.releaseHeld l (route.config.items.map PathItem.claim)) :=
        .releaseHeld hcalm (fun _ => rfl) fun _ => trivial
      obtain ⟨segments, accessories, notices, h⟩ :=
        releaseHeld_eq hcalm l (route.config.items.map PathItem.claim)
      exact .unheard (hcalled.unheard (by rw [h]) (by rw [h]))
    · exact .refl L

/-- **What an operation can do to sensors and locos.** -/
theorem affects_call (hL : L.Sound) (c : Call) : L.Affects (L.call c).2 := by
  cases c with
  | addSensor c => exact affects_addSensor c
  | addAccessory c => exact affects_addAccessory c
  | addLoco c => exact .addsLoco c
  | addSegment c => exact affects_addSegment hL.calm c
  | updateSegment c => exact affects_updateSegment hL.calm c
  | addRoute c => exact .unheard (unheard_addRoute c)
  | deleteSensor s => exact affects_deleteSensor s
  | deleteAccessory id => exact affects_deleteAccessory id
  | deleteLoco l => exact affects_deleteLoco l
  | deleteSegment t => exact affects_deleteSegment t
  | deleteRoute r => exact affects_deleteRoute r
  | reserve t l => exact affects_callSegment hL.calm t rfl
  | reserveForce t l => exact affects_callSegment hL.calm t rfl
  | lock t l => exact affects_callSegment hL.calm t rfl
  | release t l => exact affects_callSegment hL.calm t rfl
  | releaseForce t l => exact affects_callSegment hL.calm t rfl
  | setBlocked t b => exact affects_callSegment hL.calm t rfl
  | setOrientation t o => exact affects_callSegment hL.calm t rfl
  | setSensorState s state => exact affects_setSensorState hL.calm s state
  | reserveRoute r l => exact affects_reserveRoute hL r l
  | lockRoute r l => exact affects_lockRoute hL.calm r l
  | releaseRoute r l => exact affects_releaseRoute hL.calm r l

/-- Adding a stored object affects sensors and locos like adding an object; the
stamp that a route gets afterwards is no part of either. -/
theorem affects_addStored (hcalm : L.reaction = none) (key : EntityKey) (f : Fields) :
    L.Affects (L.addStored key f).2 := by
  have hread : ∀ {α : Type} (read : Except LayoutError α)
      {add : α → Layout → Except LayoutError Unit × Layout},
      (∀ a, L.Affects (add a L).2) → L.Affects (L.addRead read add).2 := by
    intro α read add hadd
    cases read with
    | ok a => exact hadd a
    | error e => exact .refl L
  rw [addStored]
  cases key.kind with
  | sensor => exact hread _ affects_addSensor
  | accessory => exact hread _ affects_addAccessory
  | loco => exact hread _ fun x => .addsLoco x
  | segment => exact hread _ (affects_addSegment hcalm)
  | route =>
    refine hread _ fun r => ?_
    have hadded := unheard_addRoute (L := L) r.config
    rw [addStampedRoute]
    generalize L.addRoute r.config = result at hadded
    obtain ⟨_ | _, M⟩ := result
    · exact .unheard hadded
    · exact .unheard ⟨hadded.segments, hadded.sensors, hadded.locos⟩

end Layout
end Interlocking
