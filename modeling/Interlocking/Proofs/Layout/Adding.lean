/-
Adding an object that can be added.

An object is added if its id is new, its numbers are in range, and everything that it
refers to is there and can be had. For each kind one lemma tells what the layout is
then.
-/
import Interlocking.Layout.Archive
import Interlocking.Proofs.Layout.Naming
import Interlocking.Proofs.Layout.References

set_option autoImplicit false

namespace Interlocking

/-- A new segment has the configuration that it was given, and nobody holds it,
whatever its sensors have reported. -/
theorem Segment.setSensors_ofConfig {c : SegmentConfig}
    {sensors : List (SensorId × Occupancy)} (hlength : Layout.validLength c.length = true)
    (hsensors : sensors.map Prod.fst = c.sensors) :
    ((ofConfig c).setSensors sensors).segment.config = c ∧
      ((ofConfig c).setSensors sensors).segment.lock = .free ∧
      ((ofConfig c).setSensors sensors).segment.pendingRelease = none := by
  refine ⟨?_, ?_⟩
  · obtain ⟨k, p, shown, h⟩ := setSensors_frame sensors (ofConfig c)
    rw [h]
    simp only [config, ofConfig, clampLength_of_valid hlength, hsensors]
  · obtain ⟨answer, k, heff, -, hlock, hpending, -⟩ := (ofConfig c).call_parts (.setSensors sensors)
    have hparts : k.lock = .free ∧ k.pending = none := by
      cases heff <;> exact ⟨rfl, rfl⟩
    exact ⟨hlock.trans hparts.1, hpending.trans hparts.2⟩

namespace Layout

variable {L : Layout}

theorem not_contains {κ α : Type} [Ord κ] [Std.LawfulEqOrd κ] {r : Registry κ α} {k : κ}
    (h : r.get? k = none) : r.contains k = false := by
  rw [Registry.contains, h]
  rfl

theorem addSensor_of_new {c : SensorConfig} (h : L.sensors.get? c.id = none) :
    L.addSensor c = (.ok (), { L with sensors := L.sensors.insert c.id (.ofConfig c) }) := by
  rw [addSensor, not_contains h]
  rfl

theorem addAccessory_of_new {c : AccessoryConfig} (h : L.accessories.get? c.id = none) :
    L.addAccessory c =
      (.ok (), { L with accessories := L.accessories.insert c.id (.ofConfig c) }) := by
  rw [addAccessory, not_contains h]
  rfl

theorem addSegment_of_wirable (hcalm : L.reaction = none) {c : SegmentConfig}
    (hlength : validLength c.length = true) (hnew : L.segments.get? c.id = none)
    (hids : L.Wirable c.id c.sensors) :
    ∃ M notices, L.Given c.id c.sensors M ∧ L.addSegment c = (.ok (), { L with
      sensors := M.sensors
      segments := L.segments.insert c.id
        ((Segment.ofConfig c).setSensors (L.sensorStates c.sensors)).segment
      notices := notices }) := by
  have hgives := givesAll (L := L) c.id c.sensors
  rw [addSegment, hlength, not_contains hnew]
  simp only [Bool.not_true, Bool.false_eq_true, if_false]
  generalize L.attachAll c.id c.sensors = result at hgives
  cases hgives with
  | nothing e hno => exact absurd hids hno
  | @all M _ h =>
    have hM : M.reaction = none := by
      rw [h.rest]
      exact hcalm
    dsimp only
    rw [notifyAll_of_calm hM, h.rest]
    exact ⟨M, _, h, rfl⟩

theorem addRoute_of_referenced {c : RouteConfig} (hnew : L.routes.get? c.id = none)
    (hrefs : L.missingReference c = none) :
    ∃ segments, L.addRoute c = (.ok (), { L with
        segments := segments, routes := L.routes.insert c.id { config := c } }) ∧
      ∀ t, segments.get? t = (L.segments.get? t).map fun g =>
        if t ∈ c.segments then (g.addRoute c.id c.priority).2 else g := by
  let N : Layout := { L with routes := L.routes.insert c.id { config := c } }
  refine ⟨(N.modifySegments c.segments fun g => (g.addRoute c.id c.priority).2).segments, ?_,
    get?_modifySegments (fun _ => Segment.addRoute_addRoute) c.segments⟩
  rw [addRoute, not_contains hnew, hrefs]
  simp only [Bool.false_eq_true, if_false]
  rw [modifySegments_eq]

theorem addStampedRoute_of_referenced {r : Route} (hnew : L.routes.get? r.config.id = none)
    (hrefs : L.missingReference r.config = none) :
    ∃ segments, L.addStampedRoute r =
        (.ok (), { L with segments := segments, routes := L.routes.insert r.config.id r }) ∧
      ∀ t, segments.get? t = (L.segments.get? t).map fun g =>
        if t ∈ r.config.segments then (g.addRoute r.config.id r.config.priority).2 else g := by
  have hstamped : (L.routes.insert r.config.id { config := r.config }).modify r.config.id
      (fun x => { x with lastUsed := r.lastUsed }) = L.routes.insert r.config.id r := by
    rw [Registry.modify, Registry.get?_insert_self]
    dsimp only
    rw [Registry.insert_insert]
  obtain ⟨segments, hadded, hsegments⟩ := addRoute_of_referenced hnew hrefs
  refine ⟨segments, ?_, hsegments⟩
  rw [addStampedRoute, hadded]
  dsimp only
  rw [hstamped]

/-! An object that was added could be added. -/

theorem new_of_addSensor {c : SensorConfig} (h : (L.addSensor c).1 = .ok ()) :
    L.sensors.get? c.id = none := by
  rw [addSensor] at h
  split at h
  · cases h
  next hnew => exact get?_eq_none_of_contains hnew

theorem new_of_addAccessory {c : AccessoryConfig} (h : (L.addAccessory c).1 = .ok ()) :
    L.accessories.get? c.id = none := by
  rw [addAccessory] at h
  split at h
  · cases h
  next hnew => exact get?_eq_none_of_contains hnew

theorem wirable_of_addSegment {c : SegmentConfig} (h : (L.addSegment c).1 = .ok ()) :
    validLength c.length = true ∧ L.segments.get? c.id = none ∧ L.Wirable c.id c.sensors := by
  rw [addSegment] at h
  split at h
  · cases h
  next hlength =>
    split at h
    · cases h
    next hnew =>
      have hgives := givesAll (L := L) c.id c.sensors
      generalize L.attachAll c.id c.sensors = result at hgives h
      cases hgives with
      | nothing => cases h
      | all hids =>
        exact ⟨by simpa using hlength, get?_eq_none_of_contains hnew, hids⟩

theorem referenced_of_addRoute {c : RouteConfig} (h : (L.addRoute c).1 = .ok ()) :
    L.routes.get? c.id = none ∧ L.missingReference c = none := by
  rw [addRoute] at h
  split at h
  · cases h
  next hnew =>
    split at h
    · cases h
    next hrefs => exact ⟨get?_eq_none_of_contains hnew, hrefs⟩

end Layout
end Interlocking
