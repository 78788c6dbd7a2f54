/-
A configuration that a segment is given is applied exactly, and once.

After an update the segment has the configuration, and a second update finds everything as
it would make it: the sensors belong to the segment already, and the states that the
segment is told are those that it knows, because an update changes no state. So each of the
calls is one that makes no difference (`call_settingCalls`), and nobody is told anything.

One thing may happen in passing. The new sensors may say that an occupied segment is free,
and then a release that waits for this is completed, as it is by a report.
-/
import Interlocking.Proofs.Layout.Naming
import Interlocking.Proofs.Layout.Notices
import Interlocking.Proofs.Layout.Saving
import Interlocking.Proofs.Layout.SensorOwnership
import Interlocking.Proofs.Segment.Reports

set_option autoImplicit false

namespace Interlocking

namespace Segment

variable {g : Segment} {c : SegmentConfig} {calls : List Call}
  {sensors : List (SensorId × Occupancy)}

/-! ## The settings of a configuration -/

/-- The segment with the settings of a configuration, except that the sensors are still
those of before. -/
def configure (c : SegmentConfig) (g : Segment) : Segment :=
  { g with
    name := c.name
    kind := c.kind
    length := clampLength c.length
    releaseWhenFree := c.releaseWhenFree
    approach := c.approach
    orientation := c.orientation
    blocked := c.blocked }

theorem run_settingCalls_eq (g : Segment) (c : SegmentConfig)
    (sensors : List (SensorId × Occupancy)) :
    g.run (Layout.settingCalls c sensors) =
      ((g.configure c).call (.setSensors sensors)).segment := by
  simp only [Layout.settingCalls, run_cons, run_nil, call, Outcome.accepted, silently,
    segment_setOrientation, segment_setBlocked, configure]

/-- The segment has the configuration that it was given. -/
theorem config_run_settingCalls (hid : g.id = c.id) (hlength : Layout.validLength c.length = true)
    (hsensors : sensors.map Prod.fst = c.sensors) :
    (g.run (Layout.settingCalls c sensors)).config = c := by
  obtain ⟨k, p, shown, h⟩ := setSensors_frame sensors (g.configure c)
  simp only [run_settingCalls_eq, call, Outcome.accepted, h, config]
  simp only [configure, hid, hsensors, clampLength_of_valid hlength]

theorem routes_run_settingCalls : (g.run (Layout.settingCalls c sensors)).routes = g.routes := by
  obtain ⟨k, p, shown, h⟩ := setSensors_frame sensors (g.configure c)
  simp only [run_settingCalls_eq, call, Outcome.accepted, h]
  rfl

/-! ## What a new list of sensors does to the lock -/

/-- The sensors make an occupied segment free, and a loco was waiting for that. -/
def LetsGo (g g' : Segment) : Prop :=
  g.occupancy = .occupied ∧ g'.occupancy = .free ∧ g.pendingRelease.isSome

/-- **Only a release that waits can be caused by sensors**, and then it is completed. -/
theorem lock_setSensors (hg : g.core.PendingSound) (sensors : List (SensorId × Occupancy)) :
    (g.LetsGo (g.call (.setSensors sensors)).segment →
      (g.call (.setSensors sensors)).segment.lock = .free ∧
      (g.call (.setSensors sensors)).segment.pendingRelease = none) ∧
    (¬ g.LetsGo (g.call (.setSensors sensors)).segment →
      (g.call (.setSensors sensors)).segment.lock = g.lock ∧
      (g.call (.setSensors sensors)).segment.pendingRelease = g.pendingRelease) := by
  obtain ⟨answer, k, heff, -, hlock, hpending, hocc, -⟩ := g.call_parts (.setSensors sensors)
  rw [LetsGo, hlock, hpending, hocc]
  cases heff with
  | refused | setting | unmoved =>
    refine ⟨?_, fun _ => ⟨rfl, rfl⟩⟩
    rintro ⟨ho, hf, -⟩
    cases ho.symm.trans hf
  | entered hc ho =>
    refine ⟨?_, fun _ => ⟨rfl, rfl⟩⟩
    rintro ⟨-, hf, -⟩
    cases hf
  | cleared hc ho hp =>
    -- A loco that waits holds the segment, so here no loco does.
    have hnone : g.pendingRelease = none :=
      Option.eq_none_iff_forall_ne_some.2 fun l hl => hp l hl (hg.holder l hl)
    refine ⟨?_, fun _ => ⟨rfl, hnone.symm⟩⟩
    rintro ⟨-, -, hsome⟩
    rw [hnone] at hsome
    cases hsome
  | fired hc ho hp hl =>
    refine ⟨fun _ => ⟨rfl, rfl⟩, fun hno => absurd ⟨ho, rfl, ?_⟩ hno⟩
    rw [hp]
    rfl

/-! ## The same settings again -/

/-- **Settings that the segment has already** change nothing, and nobody is told. -/
theorem call_settingCalls (hg : g.Settled) (hlength : Layout.validLength g.length = true) :
    ∀ call ∈ Layout.settingCalls g.config g.sensors, g.call call = silently true g := by
  have hlong : g.call (.setLength g.length) = silently true g := by
    simp only [call, clampLength_of_valid hlength]
  have hfaces : g.call (.setOrientation g.orientation) = silently true g := by
    simp only [call, setOrientation]
    rfl
  have hclosed : g.call (.setBlocked g.blocked) = silently true g := by
    simp only [call, setBlocked]
    rfl
  have hknown : g.call (.setSensors g.sensors) = silently true g := by
    simp only [call, setSensors_of_settled hg]
    rfl
  simp only [Layout.settingCalls, config, List.forall_mem_cons]
  exact ⟨rfl, rfl, hlong, rfl, rfl, hfaces, hclosed, hknown, List.forall_mem_nil _⟩

theorem run_of_silent (h : ∀ c ∈ calls, g.call c = silently true g) :
    g.run calls = g ∧ g.told calls = [] := by
  induction calls with
  | nil => exact ⟨rfl, rfl⟩
  | cons c calls ih =>
    have hrest := ih fun c' hc' => h c' (List.mem_cons_of_mem _ hc')
    rw [run_cons, told_cons, h c List.mem_cons_self]
    exact hrest

end Segment

namespace Layout

variable {L M : Layout} {c : SegmentConfig} {g : Segment} {s : SensorId}

/-! ## What an update leaves behind -/

/-- An update changes no state of a sensor. -/
theorem Updated.sensorStates (h : L.Updated c g M) (ids : List SensorId) :
    M.sensorStates ids = L.sensorStates ids := by
  rw [Layout.sensorStates, Layout.sensorStates]
  congr 1
  funext s
  rw [h.sensors, Option.map_map]
  congr 1
  funext x
  simp only [Function.comp_apply]
  split
  · rfl
  · split
    · rw [state_detach]
    · rfl

theorem Updated.config (h : L.Updated c g M) (hid : g.id = c.id) :
    (g.run (settingCalls c (L.sensorStates c.sensors))).config = c :=
  Segment.config_run_settingCalls hid h.valid h.wirable.map_fst_sensorStates

/-- The segment has the sensors that are listed, and no others. -/
theorem Updated.owned_iff (h : L.Updated c g M) (hL : L.Wired) :
    (∃ x, M.sensors.get? s = some x ∧ x.owner = some c.id) ↔ s ∈ c.sensors := by
  rw [h.sensors]
  constructor
  · rintro ⟨y, hy, howner⟩
    obtain ⟨x, hx, rfl⟩ := Option.map_eq_some_iff.1 hy
    by_contra hs
    rw [if_neg hs] at howner
    split at howner
    · exact (owner_detach_eq_some_iff.1 howner).2 rfl
    next hout => exact hout ((hL.segments _ g h.registered).mem_sensorIds.2 ⟨x, hx, howner⟩)
  · intro hs
    obtain ⟨x, hx, -⟩ := h.wirable.2 s hs
    exact ⟨{ x with owner := some c.id }, by rw [hx, Option.map_some, if_pos hs], rfl⟩

/-- A sensor that is no longer listed belongs to nobody. -/
theorem Updated.unowned (h : L.Updated c g M) (hL : L.Wired) (hs : s ∈ g.sensorIds)
    (hout : s ∉ c.sensors) : ∃ x, M.sensors.get? s = some x ∧ x.owner = none := by
  obtain ⟨x, hx, howner⟩ := (hL.segments _ g h.registered).mem_sensorIds.1 hs
  refine ⟨x.detach c.id, by rw [h.sensors, hx, Option.map_some, if_neg hout, if_pos hs], ?_⟩
  rw [Sensor.detach, if_pos howner]

theorem Updated.other (h : L.Updated c g M) (hs : s ∉ g.sensorIds) (hout : s ∉ c.sensors) :
    M.sensors.get? s = L.sensors.get? s := by
  rw [h.sensors]
  simp only [if_neg hout, if_neg hs, Option.map_id']

/-- **The same update again** comes to nothing. -/
theorem Updated.again (h : L.Updated c g M) (hid : g.id = c.id) :
    M.Updated c (g.run (settingCalls c (L.sensorStates c.sensors))) M := by
  have hstates := h.sensorStates c.sensors
  obtain ⟨hlisted, hsettled⟩ := run_settingCalls g c (L.sensorStates c.sensors)
  have hconfig := h.config hid
  have hself := h.get?_self
  generalize g.run (settingCalls c (L.sensorStates c.sensors)) = g' at *
  have hids : g'.sensorIds = c.sensors := congrArg SegmentConfig.sensors hconfig
  have hvalid : validLength g'.length = true := by
    rw [show g'.length = c.length from congrArg SegmentConfig.length hconfig]
    exact h.valid
  obtain ⟨hrun, htold⟩ := Segment.run_of_silent (Segment.call_settingCalls hsettled hvalid)
  rw [hconfig, hlisted, ← hstates] at hrun htold
  refine ⟨h.valid, ⟨h.wirable.1, fun s hs => ?_⟩, hself, fun s => ?_, ?_⟩
  · obtain ⟨x, hx, -⟩ := h.wirable.2 s hs
    exact ⟨{ x with owner := some c.id }, by rw [h.sensors, hx, Option.map_some, if_pos hs],
      .inr rfl⟩
  · -- What is listed belongs to the segment already, and nothing else is on its list.
    rw [hids, h.sensors, Option.map_map]
    refine Option.map_congr fun x _ => ?_
    by_cases hs : s ∈ c.sensors <;> simp [hs]
  · rw [hrun, htold, Registry.insert_eq_self hself, List.append_nil]

/-- **An update applies the configuration, once.** After an update that is accepted, the
segment has the configuration that it was given, and the routes touch it as before. The
sensors of the list belong to it, and no others do; those that were dropped from the list
belong to nobody, and the sensors on neither list are as before. Its lock and the release
that waits are as before, unless the new sensors make the segment free and a release waits
for that, which is then completed. All other segments, and everything but segments, sensors
and notices, are as before. And the same update again changes nothing, and nobody is told. -/
theorem update_applies_configuration_once (hL : L.Reachable)
    (h : L.updateSegment c = (.ok (), M)) :
    ∃ g g', L.segments.get? c.id = some g ∧ M.segments.get? c.id = some g' ∧
      g'.config = c ∧ g'.routes = g.routes ∧
      (∀ s, (∃ x, M.sensors.get? s = some x ∧ x.owner = some c.id) ↔ s ∈ c.sensors) ∧
      (∀ s ∈ g.sensorIds, s ∉ c.sensors → ∃ x, M.sensors.get? s = some x ∧ x.owner = none) ∧
      (∀ s, s ∉ g.sensorIds → s ∉ c.sensors → M.sensors.get? s = L.sensors.get? s) ∧
      (g.LetsGo g' → g'.lock = .free ∧ g'.pendingRelease = none) ∧
      (¬ g.LetsGo g' → g'.lock = g.lock ∧ g'.pendingRelease = g.pendingRelease) ∧
      (∀ t, t ≠ c.id → M.segments.get? t = L.segments.get? t) ∧
      M = { L with sensors := M.sensors, segments := M.segments, notices := M.notices } ∧
      M.updateSegment c = (.ok (), M) := by
  obtain ⟨order, horder⟩ := hL.addedInOrder
  obtain ⟨g, hM⟩ := updated_of_ok hL.sound.calm h
  have hid : g.id = c.id := horder.id_segment _ g hM.registered
  have hpending : g.core.PendingSound := (hL.sound.segments _ g hM.registered).pendingSound
  have hlock := Segment.lock_setSensors (g := g.configure c) hpending (L.sensorStates c.sensors)
  rw [← Segment.run_settingCalls_eq] at hlock
  have hagain : M.updateSegment c = (.ok (), M) := by
    refine (hM.again hid).ok ?_
    rw [hM.rest]
    exact hL.sound.calm
  refine ⟨g, _, hM.registered, hM.get?_self, hM.config hid, Segment.routes_run_settingCalls,
    fun s => hM.owned_iff hL.wired, fun s hs hout => hM.unowned hL.wired hs hout,
    fun s hs hout => hM.other hs hout, hlock.1, hlock.2, fun t ht => hM.get?_of_ne ht, ?_, hagain⟩
  rw [hM.rest]

/-- A segment that a loco waits to leave loses the sensor that keeps it occupied, and is
turned and closed with the same update. Observers are told three times, and then no more. -/
theorem update_applies_configuration_once_letting_go :
    let sensor (s : UInt32) : SensorConfig := { id := ⟨s⟩, name := "S", address := 1 }
    let old : SegmentConfig :=
      { id := ⟨1⟩, name := "T1", length := 1, sensors := [⟨1⟩, ⟨2⟩], releaseWhenFree := true }
    let new : SegmentConfig :=
      { id := ⟨1⟩, name := "yard", length := 40, sensors := [⟨3⟩, ⟨1⟩], blocked := true,
        orientation := .left }
    let L := empty.run
      [.addSensor (sensor 1), .addSensor (sensor 2), .addSensor (sensor 3), .addSegment old,
       .addSegment { id := ⟨2⟩, name := "T2", length := 1 }, .reserve ⟨1⟩ ⟨7⟩, .lock ⟨1⟩ ⟨7⟩,
       .setSensorState ⟨2⟩ .occupied, .release ⟨1⟩ ⟨7⟩]
    let M := (L.updateSegment new).2
    L.updateSegment new = (.ok (), M) ∧
      ∃ g g', L.segments.get? ⟨1⟩ = some g ∧ M.segments.get? ⟨1⟩ = some g' ∧
        g.lock = .locked ⟨7⟩ ∧ g.LetsGo g' ∧ g'.lock = .free ∧ g'.config = new ∧
        (∃ x, M.sensors.get? ⟨2⟩ = some x ∧ x.owner = none) ∧
        (L.news M).map (fun s => (s.orientation, s.blocked, s.lock)) =
          [(.left, false, .locked ⟨7⟩), (.left, true, .locked ⟨7⟩), (.left, true, .free)] ∧
        M.updateSegment new = (.ok (), M) := by
  intro sensor old new L M
  have hL : L.Reachable := (Reachable.start .doNotCare .silent).run _
  have haccepted : (L.updateSegment new).1 = .ok () := by decide
  have hok : L.updateSegment new = (.ok (), M) := by rw [← haccepted]
  obtain ⟨g, g', hg, hg', hconfig, -, -, hdropped, -, hfired, -, -, -, hagain⟩ :=
    update_applies_configuration_once hL hok
  have hbefore : (L.segments.get? ⟨1⟩).map (fun g =>
      (g.lock, g.occupancy, g.pendingRelease, g.sensorIds)) =
      some (.locked ⟨7⟩, .occupied, some ⟨7⟩, [⟨1⟩, ⟨2⟩]) := by decide
  have hafter : (M.segments.get? ⟨1⟩).map Segment.occupancy = some .free := by decide
  rw [hg, Option.map_some, Option.some.injEq] at hbefore
  rw [hg', Option.map_some, Option.some.injEq] at hafter
  simp only [Prod.mk.injEq] at hbefore
  obtain ⟨hlock, hoccupied, hpending, hlisted⟩ := hbefore
  have hgo : g.LetsGo g' := ⟨hoccupied, hafter, by rw [hpending]; rfl⟩
  have hout : ∃ x, M.sensors.get? ⟨2⟩ = some x ∧ x.owner = none :=
    hdropped ⟨2⟩ (by rw [hlisted]; decide) (by decide)
  exact ⟨hok, g, g', hg, hg', hlock, hgo, (hfired hgo).1, hconfig, hout, by decide, hagain⟩

end Layout
end Interlocking
