/-
A layout that was saved is restored.

The stored form of an object tells its configuration, and a route is stored with its
stamp. What is not stored comes back from elsewhere: who owns a sensor is told by the
lists of the segments, and which routes touch a segment by the routes. Nothing else
comes back. The locks are free, and the sensors have reported nothing (`Restored`).
-/
import Interlocking.Proofs.Layout.Loading

set_option autoImplicit false

namespace Interlocking.Layout

variable {L M : Layout} {order : List RouteId}

/-- The objects of `L` as they are when they have been loaded into `M`. -/
structure Restored (L M : Layout) : Prop where
  sensors : ∀ s, M.sensors.get? s = (L.sensors.get? s).map fun x => { x with state := .free }
  accessories : ∀ id, M.accessories.get? id =
    (L.accessories.get? id).map fun a => { a with lock := .free }
  locos : M.locos = L.locos
  routes : M.routes = L.routes
  segments : ∀ t, (M.segments.get? t).map Segment.config = (L.segments.get? t).map Segment.config
  routeIds : ∀ t g g', L.segments.get? t = some g → M.segments.get? t = some g' →
    ∀ r, r ∈ g'.routeIds ↔ r ∈ g.routeIds
  free : ∀ t g, M.segments.get? t = some g → g.lock = .free ∧ g.pendingRelease = none

/-- The store holds the layout: an entry for each object under its key, and nothing
else. Saving the layout once more changes nothing, and loading restores it. -/
structure Holds {σ : Type} [Store σ] (L : Layout) (entities : σ → Registry EntityKey Fields)
    (s : σ) : Prop where
  entries : (entities s).entries.Perm L.entries
  lookup : ∀ key, (entities s).get? key = L.stored key
  again : L.save s = (.ok (), s)
  loads : ∀ approach station, ∃ M,
    load s { defaultApproach := approach, station := station } = (.ok (), M) ∧ L.Restored M

/-! ## What comes back -/

/-- Who lists a sensor is told by the configurations of the segments. -/
theorem exists_mem_sensorIds_iff {t : SegmentId} {s : SensorId} :
    (∃ g, L.segments.get? t = some g ∧ s ∈ g.sensorIds) ↔
      ∃ c, (L.segments.get? t).map Segment.config = some c ∧ s ∈ c.sensors := by
  constructor
  · rintro ⟨g, hg, hs⟩
    exact ⟨g.config, by rw [hg, Option.map_some], hs⟩
  · rintro ⟨c, hc, hs⟩
    obtain ⟨g, hg, rfl⟩ := Option.map_eq_some_iff.1 hc
    exact ⟨g, hg, hs⟩

theorem eq_map_of_map_eq {α β : Type} {o o' : Option α} {part : α → β} {change : α → α}
    (h : o.map part = o'.map part)
    (hchange : ∀ a a', o = some a → o' = some a' → part a = part a' → a = change a') :
    o = o'.map change := by
  cases o with
  | none =>
    rw [Option.map_none, eq_comm, Option.map_eq_none_iff] at h
    rw [h, Option.map_none]
  | some a =>
    rw [Option.map_some, eq_comm, Option.map_eq_some_iff] at h
    obtain ⟨a', rfl, hpart⟩ := h
    rw [Option.map_some, ← hchange a a' rfl rfl hpart.symm]

theorem PartOf.stored_eq (h : L.PartOf (fun _ => True) M) (key : EntityKey) :
    M.stored key = L.stored key :=
  Option.ext fun f => (h.stored key f).trans (and_iff_right trivial)

/-- A layout with the same stored forms, in which nobody has reported or taken
anything, is the layout restored. -/
theorem PartOf.restored (hL : L.AddedInOrder order) (h : L.PartOf (fun _ => True) M) :
    L.Restored M := by
  obtain ⟨order', hM⟩ := h.history
  have hstored : ∀ {k : Kind} (i : Ident k), M.stored i.key = L.stored i.key := fun i =>
    h.stored_eq i.key
  have hsensors : ∀ s, (M.sensors.get? s).map Sensor.config =
      (L.sensors.get? s).map Sensor.config := fun s =>
    map_eq_of_map_write Sensor.config SensorConfig.ofFields_toFields hM.named.sensors
      hL.named.sensors (hstored s)
  have haccessories : ∀ id, (M.accessories.get? id).map Accessory.config =
      (L.accessories.get? id).map Accessory.config := fun id =>
    map_eq_of_map_write Accessory.config AccessoryConfig.ofFields_toFields hM.named.accessories
      hL.named.accessories (hstored id)
  have hsegments : ∀ t, (M.segments.get? t).map Segment.config =
      (L.segments.get? t).map Segment.config := fun t =>
    map_eq_of_map_write Segment.config SegmentConfig.ofFields_toFields hM.id_segment
      hL.id_segment (hstored t)
  have hlocos : ∀ l, (M.locos.get? l).map id = (L.locos.get? l).map id := fun l =>
    map_eq_of_map_write id Loco.ofFields_toFields hM.named.locos hL.named.locos (hstored l)
  have hroutes : ∀ r, (M.routes.get? r).map id = (L.routes.get? r).map id := fun r =>
    map_eq_of_map_write id Route.ofFields_toFields hM.id_route hL.id_route (hstored r)
  simp only [Option.map_id, id_eq] at hlocos hroutes
  replace hroutes := Registry.ext_get? hroutes
  refine ⟨fun s => ?_, fun id => ?_, Registry.ext_get? hlocos, hroutes, hsegments,
    fun t g g' hg hg' r => ?_, h.fresh.segments⟩
  · refine eq_map_of_map_eq (hsensors s) fun y x hy hx hconfig => ?_
    -- Both owners are the one segment that lists the sensor.
    have howner : y.owner = x.owner := Option.ext fun t => by
      rw [hM.wired.owner_eq_some_iff hy, hL.wired.owner_eq_some_iff hx, exists_mem_sensorIds_iff,
        exists_mem_sensorIds_iff, hsegments]
    cases x
    cases y
    rw [Sensor.mk.injEq]
    exact ⟨hconfig, h.fresh.sensors s _ hy, howner⟩
  · refine eq_map_of_map_eq (haccessories id) fun b a hb _ hconfig => ?_
    cases a
    cases b
    rw [Accessory.mk.injEq]
    exact ⟨hconfig, h.fresh.accessories id _ hb⟩
  · rw [hM.linked.2.mem_routeIds hg', hL.linked.2.mem_routeIds hg, hroutes]

/-! ## Saving and loading -/

theorem holds_make {σ : Type} [Store σ] {entities : σ → Registry EntityKey Fields}
    {make : Registry EntityKey Fields → σ} (hs : Store.Reliable σ entities make)
    (hL : L.AddedInOrder order) : L.Holds entities (make L.image) where
  entries := by
    rw [hs.entities_make]
    exact hL.entries_image
  lookup key := by rw [hs.entities_make, hL.get?_image]
  again := hL.save_eq hs _
  loads approach station := by
    obtain ⟨M, hM, hpart⟩ := load_image hs hL approach station
    exact ⟨M, hM, hpart.restored hL⟩

/-- **Saving and loading.** A layout that operations lead to can be saved in memory
and in a file, whatever is stored there before. Then the store has one entry for each
object and nothing else; saving once more changes nothing; loading into an empty
layout restores the layout with all locks free; and what is in the file is the same
when the file is opened again. -/
theorem saved_layouts_are_restored (hL : L.Reachable) :
    (∀ s : MemoryStore, ∃ s', L.save s = (.ok (), s') ∧ L.Holds MemoryStore.entities s') ∧
    ∀ s : FileStore, ∃ s', L.save s = (.ok (), s') ∧ L.Holds FileStore.entities s' ∧
      s'.reopen = .ok s' := by
  obtain ⟨order, horder⟩ := hL.addedInOrder
  refine ⟨fun s => ⟨_, horder.save_eq MemoryStore.reliable s, ?_⟩,
    fun s => ⟨_, horder.save_eq FileStore.reliable s, ?_, ?_⟩⟩
  · exact holds_make MemoryStore.reliable horder
  · exact holds_make FileStore.reliable horder
  · exact FileStore.reopen_written L.image

/-- A layout is saved while a route is locked and its sensor reports, over objects
that it no longer has. The route is as recently used afterwards, and its accessory is
still set; but nobody holds it, and the sensor waits for its next report. -/
theorem saved_layouts_are_restored_with_locks_free :
    let calls : List Call :=
      [.addSensor { id := ⟨1⟩, name := "S1", address := 1 },
       .addAccessory { id := ⟨1⟩, name := "A1", address := 1 },
       .addLoco { id := ⟨7⟩, name := "L7" },
       .addSegment { id := ⟨1⟩, name := "T1", length := 1, sensors := [] },
       .addSegment { id := ⟨2⟩, name := "T2", length := 1, sensors := [⟨1⟩] },
       .addRoute
         { id := ⟨1⟩, name := "R", priority := 3, origin := ⟨1⟩, destination := ⟨2⟩,
           items := [.accessory ⟨1⟩ .on] },
       .reserveRoute ⟨1⟩ ⟨7⟩, .lockRoute ⟨1⟩ ⟨7⟩, .setSensorState ⟨1⟩ .occupied]
    let L := empty.run calls
    let before : FileStore :=
      .written (.ofList [(⟨.loco, 7⟩, .ofList []), (⟨.segment, 9⟩, .ofList [("name", "T9")])])
    (L.sensors.get? ⟨1⟩).map Sensor.state = some .occupied ∧
    (L.segments.get? ⟨2⟩).map Segment.lock = some (.locked ⟨7⟩) ∧
    ∃ s M, L.save before = (.ok (), s) ∧ s.entities.get? ⟨.segment, 9⟩ = none ∧
      load s empty = (.ok (), M) ∧
      (M.sensors.get? ⟨1⟩).map (fun x => (x.state, x.owner)) = some (.free, some ⟨2⟩) ∧
      (M.accessories.get? ⟨1⟩).map (fun a => (a.config.output, a.lock)) = some (.on, .free) ∧
      (M.routes.get? ⟨1⟩).map Route.lastUsed = some 1 ∧
      ∀ g, M.segments.get? ⟨2⟩ = some g → g.lock = .free := by
  intro calls L before
  have hL : L.Reachable := (Reachable.start .doNotCare .silent).run calls
  obtain ⟨s, hs, hholds, -⟩ := (saved_layouts_are_restored hL).2 before
  obtain ⟨M, hM, h⟩ := hholds.loads .doNotCare .silent
  refine ⟨by decide, by decide, s, M, hs, ?_, hM, ?_, ?_, ?_, fun g hg => (h.free _ g hg).1⟩
  · rw [hholds.lookup]
    decide
  · rw [h.sensors]
    decide
  · rw [h.accessories]
    decide
  · rw [h.routes]
    decide

end Interlocking.Layout
