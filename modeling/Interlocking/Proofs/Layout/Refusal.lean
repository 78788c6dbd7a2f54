/-
A change of the configuration that is refused leaves no trace.

Most changes look at everything before they touch anything. The two that do not are
adding and updating a segment: they hand out sensors one by one, find out in the
middle of the list that one of them cannot be had, and have to take back what this
very call gave and nothing else. That is settled by `givesAll`; what is left here is
that nothing is done between a refusal and the answer.

Nothing is asked of the layout, not even that operations led to it. The state that is
compared is the whole of it, and the notices that observers were sent are a part of
that.
-/
import Interlocking.Layout.Call
import Interlocking.Proofs.Layout.Attaching

set_option autoImplicit false

namespace Interlocking.Layout

variable {L : Layout}

/-- What came of an attempt to change a layout, if an error means that nothing
happened. -/
def AllOrNothing {α : Type} (L : Layout) (result : Except LayoutError α × Layout) : Prop :=
  ∀ e, result.1 = .error e → result.2 = L

namespace AllOrNothing

variable {α : Type}

theorem ok (L : Layout) (a : α) (M : Layout) : L.AllOrNothing (.ok a, M) := by
  intro e he
  cases he

theorem error (L : Layout) (e : LayoutError) : L.AllOrNothing (α := α) (.error e, L) := by
  intro _ _
  rfl

/-- The answer to a change is a refusal only if the change failed. -/
theorem changed {result : Except LayoutError Unit × Layout} (h : L.AllOrNothing result)
    {e : LayoutError} (he : (Layout.changed result).1 = .refused e) :
    (Layout.changed result).2 = L := by
  obtain ⟨_ | _, M⟩ := result
  · exact h _ rfl
  · cases he

end AllOrNothing

/-! ## Operations that look first -/

theorem addSensor_allOrNothing (c : SensorConfig) : L.AllOrNothing (L.addSensor c) := by
  unfold addSensor
  split
  · apply AllOrNothing.error
  · apply AllOrNothing.ok

theorem addAccessory_allOrNothing (c : AccessoryConfig) : L.AllOrNothing (L.addAccessory c) := by
  unfold addAccessory
  split
  · apply AllOrNothing.error
  · apply AllOrNothing.ok

theorem addRoute_allOrNothing (c : RouteConfig) : L.AllOrNothing (L.addRoute c) := by
  unfold addRoute
  split
  · apply AllOrNothing.error
  · split
    · apply AllOrNothing.error
    · apply AllOrNothing.ok

theorem deleteSensor_allOrNothing (s : SensorId) : L.AllOrNothing (L.deleteSensor s) := by
  unfold deleteSensor
  split
  · apply AllOrNothing.error
  · split
    · apply AllOrNothing.error
    · apply AllOrNothing.ok

theorem deleteAccessory_allOrNothing (id : AccessoryId) :
    L.AllOrNothing (L.deleteAccessory id) := by
  unfold deleteAccessory
  split
  · apply AllOrNothing.error
  · split
    · apply AllOrNothing.error
    · apply AllOrNothing.ok

theorem deleteLoco_allOrNothing (l : LocoId) : L.AllOrNothing (L.deleteLoco l) := by
  unfold deleteLoco
  split
  · apply AllOrNothing.error
  · split
    · apply AllOrNothing.error
    · apply AllOrNothing.ok

theorem deleteSegment_allOrNothing (t : SegmentId) : L.AllOrNothing (L.deleteSegment t) := by
  unfold deleteSegment
  split
  · apply AllOrNothing.error
  · split
    · apply AllOrNothing.error
    · apply AllOrNothing.ok

theorem deleteRoute_allOrNothing (r : RouteId) : L.AllOrNothing (L.deleteRoute r) := by
  unfold deleteRoute
  split
  · apply AllOrNothing.error
  · apply AllOrNothing.ok

/-! ## Operations that hand out sensors -/

theorem addSegment_allOrNothing (c : SegmentConfig) : L.AllOrNothing (L.addSegment c) := by
  unfold addSegment
  split
  · apply AllOrNothing.error
  · split
    · apply AllOrNothing.error
    · have hgives := givesAll (L := L) c.id c.sensors
      generalize L.attachAll c.id c.sensors = result at hgives
      cases hgives with
      | all hids h => apply AllOrNothing.ok
      | nothing e hids => apply AllOrNothing.error

theorem updateSegment_allOrNothing (c : SegmentConfig) :
    L.AllOrNothing (L.updateSegment c) := by
  unfold updateSegment
  split
  · apply AllOrNothing.error
  · split
    · apply AllOrNothing.error
    · have hgives := givesAll (L := L) c.id c.sensors
      generalize L.attachAll c.id c.sensors = result at hgives
      cases hgives with
      | all hids h => apply AllOrNothing.ok
      | nothing e hids => apply AllOrNothing.error

/-! ## Every operation -/

/-- **A refusal changes nothing.** Whatever change of the configuration is asked for
and in whatever state: if the answer is an error, then the layout is the one before,
with all its objects, owners, lists, locks and stamps, and nobody was sent a notice. -/
theorem refusals_change_nothing (L : Layout) (c : Call) (e : LayoutError)
    (h : (L.call c).1 = .refused e) : (L.call c).2 = L := by
  cases c with
  | addSensor c => exact (addSensor_allOrNothing c).changed h
  | addAccessory c => exact (addAccessory_allOrNothing c).changed h
  | addSegment c => exact (addSegment_allOrNothing c).changed h
  | updateSegment c => exact (updateSegment_allOrNothing c).changed h
  | addRoute c => exact (addRoute_allOrNothing c).changed h
  | deleteSensor s => exact (deleteSensor_allOrNothing s).changed h
  | deleteAccessory id => exact (deleteAccessory_allOrNothing id).changed h
  | deleteLoco l => exact (deleteLoco_allOrNothing l).changed h
  | deleteSegment t => exact (deleteSegment_allOrNothing t).changed h
  | deleteRoute r => exact (deleteRoute_allOrNothing r).changed h
  -- The remaining operations answer without an error.
  | addLoco
  | reserve | reserveForce | lock | release | releaseForce | setBlocked | setOrientation
  | setSensorState | reserveRoute | lockRoute | releaseRoute => cases h

/-- A segment that has a sensor asks for this one again, for one that is free and for
one that is another's. The last is refused, the free one is free again, and the first
stays with the segment. -/
theorem refusals_change_nothing_midway :
    let segment (t : UInt32) (sensors : List SensorId) : SegmentConfig :=
      { id := ⟨t⟩, name := "T", length := 1, sensors := sensors }
    let sensor (s : UInt32) : Call := .addSensor { id := ⟨s⟩, name := "S", address := 1 }
    let L := empty.run [sensor 1, sensor 2, sensor 3, .addSegment (segment 1 [⟨1⟩]),
      .addSegment (segment 2 [⟨3⟩])]
    let c : Call := .updateSegment (segment 1 [⟨1⟩, ⟨2⟩, ⟨3⟩])
    (L.call c).1 = .refused (.sensorInUse ⟨3⟩ ⟨2⟩) ∧ (L.call c).2 = L ∧
      (L.sensors.values.map Sensor.owner) = [some ⟨1⟩, none, some ⟨2⟩] := by
  intro segment sensor L c
  have hrefused : (L.call c).1 = .refused (.sensorInUse ⟨3⟩ ⟨2⟩) := by decide
  exact ⟨hrefused, refusals_change_nothing L c _ hrefused, by decide⟩

end Interlocking.Layout
