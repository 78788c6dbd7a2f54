/-
Deleting what was just added.

An object is added under a new id, and nothing that is there refers to an id that is not
registered: routes refer to things that are there, segments list routes that are there,
and the owner of a sensor is there. So when the object is deleted again at once, nothing
stands against it, and to take it out is to have the layout of before.

Two kinds of objects leave their mark on others when they are added. A segment becomes the
owner of its sensors, which belonged to nobody, and a route finds its place in the lists of
the segments that it touches. Both marks are wiped off without a trace. The observers have
heard of a segment that was occupied from the start, and that is all that stays.
-/
import Interlocking.Proofs.Layout.Adding
import Interlocking.Proofs.Layout.SensorOwnership

set_option autoImplicit false

namespace Interlocking.Layout

variable {L M : Layout}

/-! ## Deleting what can be deleted -/

theorem deleteSensor_of_unused {s : SensorId} {x : Sensor} (hx : L.sensors.get? s = some x)
    (howner : x.owner = none)
    (hunwatched : ∀ r ∈ L.routes.values, s ∉ r.config.speedSensors.toList) :
    L.deleteSensor s = (.ok (), { L with sensors := L.sensors.erase s }) := by
  have hany : (L.routes.values.any fun r => r.config.speedSensors.toList.contains s) = false :=
    List.any_eq_false.2 fun r hr => by simpa using hunwatched r hr
  rw [deleteSensor, hx]
  dsimp only
  rw [howner, hany]
  rfl

theorem deleteAccessory_of_unused {id : AccessoryId} {a : Accessory}
    (ha : L.accessories.get? id = some a) (hfree : a.lock = .free)
    (hunused : ∀ r ∈ L.routes.values, id ∉ r.config.accessories.map Prod.fst) :
    L.deleteAccessory id = (.ok (), { L with accessories := L.accessories.erase id }) := by
  have hany : (L.routes.values.any fun r => id ∈ r.config.accessories.map Prod.fst) = false :=
    List.any_eq_false.2 fun r hr => by simpa using hunused r hr
  rw [deleteAccessory, ha]
  dsimp only
  rw [hfree, hany]
  rfl

theorem deleteSegment_of_unused (hcalm : L.reaction = none) {t : SegmentId} {g : Segment}
    (hg : L.segments.get? t = some g) (hfree : g.lock = .free) (hpending : g.pendingRelease = none)
    (hroutes : g.routes = []) :
    L.deleteSegment t = (.ok (), { L with
      sensors := (L.detachAll t g.sensorIds).sensors, segments := L.segments.erase t }) := by
  have huse : (g.inUse || !g.routes.isEmpty) = false := by
    rw [Segment.inUse, hfree, hpending, hroutes]
    rfl
  rw [deleteSegment, hg]
  dsimp only
  rw [huse, detachAll_eq, hcalm]
  rfl

theorem deleteRoute_of_registered {r : RouteId} {x : Route} (hr : L.routes.get? r = some x) :
    ∃ segments, L.deleteRoute r =
        (.ok (), { L with routes := L.routes.erase r, segments := segments }) ∧
      ∀ t, segments.get? t = (L.segments.get? t).map fun g =>
        if t ∈ x.config.segments then (g.removeRoute r).2 else g := by
  let N : Layout := { L with routes := L.routes.erase r }
  refine ⟨(N.modifySegments x.config.segments fun g => (g.removeRoute r).2).segments, ?_,
    get?_modifySegments (fun _ => Segment.removeRoute_removeRoute) x.config.segments⟩
  rw [deleteRoute, hr]
  dsimp only
  rw [modifySegments_eq]

/-! ## Sensors and accessories -/

/-- A route refers to nothing that is not there. -/
theorem Reachable.referenced_of_mem_values (hL : L.Reachable) {x : Route}
    (hx : x ∈ L.routes.values) :
    (∀ s ∈ x.config.speedSensors.toList, L.sensors.get? s ≠ none) ∧
      ∀ id ∈ x.config.accessories.map Prod.fst, L.accessories.get? id ≠ none := by
  obtain ⟨r, hr⟩ := (L.routes.mem_values_iff x).1 hx
  obtain ⟨order, horder⟩ := hL.addedInOrder
  have hconfig : L.config? r = some x.config := by rw [config?, hr, Option.map_some]
  constructor
  · exact fun s hs => Option.isSome_iff_ne_none.1 (horder.referenced.sensors r _ hconfig s hs)
  · exact fun id hid =>
      Option.isSome_iff_ne_none.1 (horder.referenced.accessories r _ hconfig id hid)

theorem Reachable.deleteSensor_addSensor (hL : L.Reachable) {c : SensorConfig}
    (h : L.addSensor c = (.ok (), M)) : M.deleteSensor c.id = (.ok (), L) := by
  have hnew : L.sensors.get? c.id = none := new_of_addSensor (congrArg Prod.fst h)
  have hM := (Prod.mk.inj (h.symm.trans (addSensor_of_new hnew))).2
  have hthere : M.sensors.get? c.id = some (.ofConfig c) := by
    rw [hM]
    exact Registry.get?_insert_self _ _ _
  have hunwatched : ∀ x ∈ M.routes.values, c.id ∉ x.config.speedSensors.toList := by
    rw [hM]
    exact fun x hx hwatches => (hL.referenced_of_mem_values hx).1 c.id hwatches hnew
  rw [deleteSensor_of_unused hthere rfl hunwatched, hM]
  dsimp only
  rw [Registry.erase_insert hnew]

theorem Reachable.deleteAccessory_addAccessory (hL : L.Reachable) {c : AccessoryConfig}
    (h : L.addAccessory c = (.ok (), M)) : M.deleteAccessory c.id = (.ok (), L) := by
  have hnew : L.accessories.get? c.id = none := new_of_addAccessory (congrArg Prod.fst h)
  have hM := (Prod.mk.inj (h.symm.trans (addAccessory_of_new hnew))).2
  have hthere : M.accessories.get? c.id = some (.ofConfig c) := by
    rw [hM]
    exact Registry.get?_insert_self _ _ _
  have hunused : ∀ x ∈ M.routes.values, c.id ∉ x.config.accessories.map Prod.fst := by
    rw [hM]
    exact fun x hx hneeds => (hL.referenced_of_mem_values hx).2 c.id hneeds hnew
  rw [deleteAccessory_of_unused hthere rfl hunused, hM]
  dsimp only
  rw [Registry.erase_insert hnew]

/-! ## Segments -/

/-- The sensors that a new segment was given belonged to nobody, since a segment that is
not there owns no sensor. They belong to nobody again when the segment lets go of them. -/
theorem Wired.detachAll_of_given (hL : L.Wired) {t : SegmentId} {ids : List SensorId}
    (hnew : L.segments.get? t = none) (hids : L.Wirable t ids)
    (hgiven : ∀ s, M.sensors.get? s =
      (L.sensors.get? s).map fun x => if s ∈ ids then { x with owner := some t } else x) :
    (M.detachAll t ids).sensors = L.sensors := by
  refine Registry.ext_get? fun s => ?_
  rw [get?_detachAll, hgiven, Option.map_map]
  cases hx : L.sensors.get? s with
  | none => rfl
  | some x =>
    rw [Option.map_some]
    by_cases hs : s ∈ ids
    · -- Taking the sensor away again leaves it without an owner, as it was.
      obtain ⟨y, hy, howner⟩ := hids.2 s hs
      obtain rfl := Option.some.inj (hy.symm.trans hx)
      have hnone : y.owner = none := howner.resolve_right fun hours => by
        have hthere := hL.owners s y t hx hours
        rw [hnew] at hthere
        cases hthere
      simp only [Function.comp_apply, if_pos hs, Sensor.detach, if_true]
      rw [← hnone]
    · simp only [Function.comp_apply, if_neg hs]

theorem Reachable.deleteSegment_addSegment (hL : L.Reachable) {c : SegmentConfig}
    (h : L.addSegment c = (.ok (), M)) :
    M.deleteSegment c.id = (.ok (), { L with notices := M.notices }) := by
  obtain ⟨hlength, hnew, hids⟩ := wirable_of_addSegment (congrArg Prod.fst h)
  obtain ⟨N, notices, hgiven, hadded⟩ := addSegment_of_wirable hL.sound.calm hlength hnew hids
  have hM := (Prod.mk.inj (h.symm.trans hadded)).2
  -- What the new segment shows depends on its sensors, but that plays no part here.
  generalize hg : ((Segment.ofConfig c).setSensors (L.sensorStates c.sensors)).segment = g at hM
  obtain ⟨hconfig, hfree, hpending⟩ :=
    Segment.setSensors_ofConfig hlength hids.map_fst_sensorStates
  obtain ⟨-, hroutes⟩ := (Segment.ofConfig c).call_keeps
    (c := .setSensors (L.sensorStates c.sensors)) nofun
  rw [hg] at hconfig hfree hpending
  have hlisted : g.sensorIds = c.sensors := congrArg SegmentConfig.sensors hconfig
  have hthere : M.segments.get? c.id = some g := by
    rw [hM]
    exact Registry.get?_insert_self _ _ _
  have hcalm : M.reaction = none := by
    rw [hM]
    exact hL.sound.calm
  have hsensors : (M.detachAll c.id c.sensors).sensors = L.sensors := by
    refine hL.wired.detachAll_of_given hnew hids fun s => ?_
    rw [hM]
    exact hgiven.sensors s
  rw [deleteSegment_of_unused hcalm hthere hfree hpending (hg ▸ hroutes), hlisted, hsensors, hM]
  dsimp only
  rw [Registry.erase_insert hnew]

/-! ## Routes -/

/-- The lists of the segments that a new route touches do not have it yet, since a segment
lists routes that are there. So to forget it there is to have the lists of before. -/
theorem Reachable.deleteRoute_addRoute (hL : L.Reachable) {c : RouteConfig}
    (h : L.addRoute c = (.ok (), M)) : M.deleteRoute c.id = (.ok (), L) := by
  obtain ⟨hnew, hrefs⟩ := referenced_of_addRoute (congrArg Prod.fst h)
  obtain ⟨noted, hadded, hnoted⟩ := addRoute_of_referenced hnew hrefs
  have hM := (Prod.mk.inj (h.symm.trans hadded)).2
  have hthere : M.routes.get? c.id = some { config := c } := by
    rw [hM]
    exact Registry.get?_insert_self _ _ _
  obtain ⟨forgotten, hdeleted, hforgotten⟩ := deleteRoute_of_registered hthere
  have hsegments : forgotten = L.segments := by
    refine Registry.ext_get? fun t => ?_
    rw [hforgotten, hM]
    dsimp only
    rw [hnoted, Option.map_map]
    cases hg : L.segments.get? t with
    | none => rfl
    | some g =>
      obtain ⟨order, horder⟩ := hL.addedInOrder
      -- The segment may be touched many times, and still notes the route once.
      have hunlisted : c.id ∉ g.routeIds := fun hlisted => by
        obtain ⟨x, hx, -⟩ := (horder.linked.2.mem_routeIds hg).1 hlisted
        cases hnew.symm.trans hx
      rw [Option.map_some, Function.comp_apply]
      split
      · rw [Segment.removeRoute_addRoute hunlisted]
      · rfl
  rw [hdeleted, hsegments, hM]
  dsimp only
  rw [Registry.erase_insert hnew]

/-- **Deleting undoes adding.** In every layout that operations lead to, a sensor, an
accessory, a segment or a route that was added can be deleted at once, and then the layout
is the one from before, in all its parts: every registry, the owners and the states of the
sensors, the lists of routes with their order, the locks and the stamps. A segment may have
been announced; the notices that observers were sent are not taken back. -/
theorem delete_undoes_add (hL : L.Reachable) (M : Layout) :
    (∀ c : SensorConfig, L.addSensor c = (.ok (), M) → M.deleteSensor c.id = (.ok (), L)) ∧
    (∀ c : AccessoryConfig, L.addAccessory c = (.ok (), M) →
      M.deleteAccessory c.id = (.ok (), L)) ∧
    (∀ c : SegmentConfig, L.addSegment c = (.ok (), M) →
      M.deleteSegment c.id = (.ok (), { L with notices := M.notices })) ∧
    ∀ c : RouteConfig, L.addRoute c = (.ok (), M) → M.deleteRoute c.id = (.ok (), L) :=
  ⟨fun _ => hL.deleteSensor_addSensor, fun _ => hL.deleteAccessory_addAccessory,
    fun _ => hL.deleteSegment_addSegment, fun _ => hL.deleteRoute_addRoute⟩

/-- A loco has locked a route and waits for a segment of it to clear, and a sensor that
belongs to nobody is occupied. The new segment gets that sensor and is occupied from the
start. The new route runs over one segment four times, and finds its place in the middle
of the list. Every one of the new objects can be deleted at once. -/
theorem delete_undoes_add_in_traffic :
    let route (r : UInt32) (priority : UInt8) : RouteConfig :=
      { id := ⟨r⟩, name := "R", priority := priority, origin := ⟨1⟩, destination := ⟨3⟩,
        items := [.segment ⟨2⟩, .accessory ⟨1⟩ .on] }
    let L := empty.run
      [.addSensor { id := ⟨1⟩, name := "S1", address := 1 },
       .addSensor { id := ⟨2⟩, name := "S2", address := 2 },
       .addAccessory { id := ⟨1⟩, name := "A1", address := 1 },
       .addSegment { id := ⟨1⟩, name := "T1", length := 1, sensors := [] },
       .addSegment { id := ⟨2⟩, name := "T2", length := 1, sensors := [⟨2⟩], releaseWhenFree := true },
       .addSegment { id := ⟨3⟩, name := "T3", length := 1, sensors := [] },
       .addRoute (route 1 1), .addRoute (route 2 3), .reserveRoute ⟨1⟩ ⟨7⟩, .lockRoute ⟨1⟩ ⟨7⟩,
       .setSensorState ⟨1⟩ .occupied, .setSensorState ⟨2⟩ .occupied, .release ⟨2⟩ ⟨7⟩]
    let sensor : SensorConfig := { id := ⟨3⟩, name := "S3", address := 3 }
    let accessory : AccessoryConfig := { id := ⟨2⟩, name := "A2", address := 2 }
    let segment : SegmentConfig := { id := ⟨4⟩, name := "T4", length := 1, sensors := [⟨1⟩] }
    let loop : RouteConfig :=
      { id := ⟨3⟩, name := "R", priority := 2, origin := ⟨2⟩, destination := ⟨2⟩,
        items := [.segment ⟨2⟩, .accessory ⟨1⟩ .off, .segment ⟨2⟩],
        speedSensors := { stop := some ⟨1⟩ } }
    ((L.addSegment segment).2.segments.get? ⟨4⟩).map Segment.occupancy = some .occupied ∧
    ((L.addRoute loop).2.segments.get? ⟨2⟩).map Segment.routeIds = some [⟨1⟩, ⟨3⟩, ⟨2⟩] ∧
    (L.addSensor sensor).2.deleteSensor ⟨3⟩ = (.ok (), L) ∧
    (L.addAccessory accessory).2.deleteAccessory ⟨2⟩ = (.ok (), L) ∧
    (L.addSegment segment).2.deleteSegment ⟨4⟩ =
      (.ok (), { L with notices := (L.addSegment segment).2.notices }) ∧
    (L.addRoute loop).2.deleteRoute ⟨3⟩ = (.ok (), L) := by
  intro route L sensor accessory segment loop
  have hL : L.Reachable := (Reachable.start .doNotCare .silent).run _
  have haccepted : ∀ x : Except LayoutError Unit × Layout, x.1 = .ok () → x = (.ok (), x.2) := by
    rintro ⟨_, M⟩ rfl
    rfl
  have hsensor := haccepted (L.addSensor sensor) (by decide)
  have haccessory := haccepted (L.addAccessory accessory) (by decide)
  have hsegment := haccepted (L.addSegment segment) (by decide)
  have hroute := haccepted (L.addRoute loop) (by decide)
  exact ⟨by decide, by decide, (delete_undoes_add hL _).1 sensor hsensor,
    (delete_undoes_add hL _).2.1 accessory haccessory,
    (delete_undoes_add hL _).2.2.1 segment hsegment, (delete_undoes_add hL _).2.2.2 loop hroute⟩

end Interlocking.Layout
