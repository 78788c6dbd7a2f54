/-
What routes refer to, in every layout that operations lead to.

A route refers to segments, accessories and sensors, and all of them are there as
long as the route is. For segments this is known: the segments that a route touches
list it (`Linked`), and a segment that lists a route is not deleted. Accessories and
sensors do not know of routes; when one of them is deleted, the routes are searched
(`Referenced`).
-/
import Interlocking.Proofs.Layout.RouteSelection
import Interlocking.Proofs.Layout.Wiring

set_option autoImplicit false

namespace Interlocking

namespace Layout

variable {L M N : Layout} {P Q : Deed → Prop} {r : RouteId} {c : RouteConfig} {t : SegmentId}
  {id : AccessoryId} {s : SensorId}

theorem mem_segments :
    t ∈ c.segments ↔ t = c.origin ∨ .segment t ∈ c.items ∨ t = c.destination := by
  rw [RouteConfig.segments, List.mem_append, List.mem_cons, List.mem_singleton,
    List.mem_filterMap, or_assoc]
  refine or_congr_right (or_congr_left ⟨?_, fun h => ⟨_, h, rfl⟩⟩)
  rintro ⟨item, hitem, hid⟩
  cases item with
  | segment t' =>
    cases hid
    exact hitem
  | accessory => cases hid

theorem mem_map_accessories :
    id ∈ c.accessories.map Prod.fst ↔ ∃ o, .accessory id o ∈ c.items := by
  rw [List.mem_map]
  constructor
  · rintro ⟨⟨id, o⟩, hmem, rfl⟩
    exact ⟨o, mem_accessories.1 hmem⟩
  · rintro ⟨o, hitem⟩
    exact ⟨(id, o), mem_accessories.2 hitem, rfl⟩

/-! ## Accessories and sensors -/

/-- The accessories and sensors that the registered routes refer to are there. -/
structure Referenced (L : Layout) : Prop where
  accessories : ∀ r c, L.config? r = some c →
    ∀ id ∈ c.accessories.map Prod.fst, (L.accessories.get? id).isSome
  sensors : ∀ r c, L.config? r = some c →
    ∀ s ∈ c.speedSensors.toList, (L.sensors.get? s).isSome

/-- What a route needs is looked for before the route is added. -/
theorem missingReference_eq_none_iff : L.missingReference c = none ↔
    (∀ id ∈ c.accessories.map Prod.fst, (L.accessories.get? id).isSome) ∧
      (∀ s ∈ c.speedSensors.toList, (L.sensors.get? s).isSome) ∧
      ∀ t ∈ c.segments, (L.segments.get? t).isSome := by
  simp only [missingReference, Option.orElse_eq_orElse, Option.orElse_eq_or, Option.or_eq_none_iff,
    Option.map_eq_none_iff, List.find?_eq_none, Bool.not_eq_true', Bool.not_eq_false,
    Registry.contains]

theorem Does.config? (h : L.Does P M) (hc : M.config? r = some c) :
    L.config? r = some c ∨ L.missingReference c = none := by
  cases h with
  | calls h | addsSegment h | deletesSegment h => exact .inl ((h.routes r).symm.trans hc)
  | addsAccessory | deletesAccessory => exact .inl hc
  | addsRoute c' hnew hrefs =>
    rw [config?_modifySegments, Layout.config?, Registry.get?_insert] at hc
    split at hc
    · obtain rfl := Option.some.inj hc
      exact .inr hrefs
    · exact .inl hc
  | deletesRoute hr =>
    rw [config?_modifySegments, Layout.config?, Registry.get?_erase] at hc
    split at hc
    · cases hc
    · exact .inl hc

/-- An accessory that goes is on no route. -/
theorem Does.accessory (h : L.Does P M) (ha : (L.accessories.get? id).isSome) :
    (M.accessories.get? id).isSome ∨
      M.routes = L.routes ∧ ∀ x ∈ L.routes.values, id ∉ x.config.accessories.map Prod.fst := by
  cases h with
  | calls h | addsSegment h | deletesSegment h =>
    obtain ⟨calls, -, hsame⟩ := h.accessories id
    refine .inl ?_
    rw [hsame, Option.isSome_map]
    exact ha
  | addsAccessory c hnew =>
    refine .inl ?_
    dsimp only
    rw [Registry.get?_insert]
    split
    · rfl
    · exact ha
  | @deletesAccessory id' a ha' hfree hunused =>
    by_cases hid : id = id'
    · subst hid
      exact .inr ⟨rfl, hunused⟩
    · refine .inl ?_
      dsimp only
      rw [Registry.get?_erase, if_neg hid]
      exact ha
  | addsRoute | deletesRoute =>
    refine .inl ?_
    rw [modifySegments_eq]
    exact ha

/-- A sensor that goes is watched by no route. -/
theorem Affects.sensor (h : L.Affects M) (hs : (L.sensors.get? s).isSome) :
    (M.sensors.get? s).isSome ∨
      M.routes = L.routes ∧ ∀ x ∈ L.routes.values, s ∉ x.config.speedSensors.toList := by
  cases h with
  | unheard h =>
    refine .inl ?_
    rw [h.sensors]
    exact hs
  | addsSensor c hnew =>
    refine .inl ?_
    dsimp only
    rw [Registry.get?_insert]
    split
    · rfl
    · exact hs
  | @deletesSensor s' x hx hfree hunwatched =>
    by_cases heq : s = s'
    · subst heq
      exact .inr ⟨rfl, hunwatched⟩
    · refine .inl ?_
      dsimp only
      rw [Registry.get?_erase, if_neg heq]
      exact hs
  | hears state hx hsensors hsegments hlocos =>
    refine .inl ?_
    rw [hsensors, Registry.get?_insert]
    split
    · rfl
    · exact hs
  | wires ids dropped hids hdropped hold hsensors hsegments hg hsettled hlocos =>
    refine .inl ?_
    rw [hsensors, Option.isSome_map]
    exact hs
  | unwires hg hsensors hsegments hlocos =>
    refine .inl ?_
    rw [hsensors, Option.isSome_map]
    exact hs
  | addsLoco | deletesLoco => exact .inl hs

/-- A registered configuration is that of a listed route. -/
theorem exists_mem_values_of_config? (hc : L.config? r = some c) :
    ∃ x ∈ L.routes.values, x.config = c := by
  obtain ⟨x, hx, rfl⟩ := Option.map_eq_some_iff.1 hc
  exact ⟨x, (L.routes.mem_values_iff x).2 ⟨r, hx⟩, rfl⟩

/-- **One operation** leaves what the routes refer to in place. It is told from what
it does to routes and accessories (`N`, and then calls), and to sensors. -/
theorem Referenced.step (h : L.Referenced) (hdoes : L.Does P N) (hcalled : N.Called Q M)
    (haffects : L.Affects M) : M.Referenced := by
  have hconfig : ∀ r, M.config? r = N.config? r := hcalled.routes
  refine ⟨fun r c hc id hid => ?_, fun r c hc s hs => ?_⟩
  · rw [hconfig] at hc
    have hold : (L.accessories.get? id).isSome := by
      rcases hdoes.config? hc with hc' | hrefs
      · exact h.accessories r c hc' id hid
      · exact (missingReference_eq_none_iff.1 hrefs).1 id hid
    obtain ⟨calls, -, hsame⟩ := hcalled.accessories id
    rw [hsame, Option.isSome_map]
    refine (hdoes.accessory hold).resolve_right ?_
    rintro ⟨hroutes, hunused⟩
    rw [config?, hroutes] at hc
    obtain ⟨x, hx, rfl⟩ := exists_mem_values_of_config? hc
    exact hunused x hx hid
  · have hold : (L.sensors.get? s).isSome := by
      rcases hdoes.config? ((hconfig r).symm.trans hc) with hc' | hrefs
      · exact h.sensors r c hc' s hs
      · exact (missingReference_eq_none_iff.1 hrefs).2.1 s hs
    refine (haffects.sensor hold).resolve_right ?_
    rintro ⟨hroutes, hunwatched⟩
    rw [config?, hroutes] at hc
    obtain ⟨x, hx, rfl⟩ := exists_mem_values_of_config? hc
    exact hunwatched x hx hs

theorem AddedInOrder.referenced {order : List RouteId} (h : L.AddedInOrder order) :
    L.Referenced := by
  induction h with
  | start approach station =>
    refine ⟨fun _ _ hc => ?_, fun _ _ hc => ?_⟩
    all_goals cases hc
  | call h c ih =>
    have hsound := h.linked.1
    exact ih.step (does_call hsound c) (.refl (P := fun _ => False) _) (affects_call hsound c)
  | addStored h key f ih =>
    have hcalm := h.linked.1.calm
    obtain ⟨N, hadds, hstamps⟩ := does_addStored (P := fun _ => False) hcalm key f
    exact ih.step hadds hstamps (affects_addStored hcalm key f)
  | count _ _ ih | elsewhere _ _ _ ih => exact ⟨ih.accessories, ih.sensors⟩

/-! ## What a route touches and claims -/

section Linked

variable {order : List RouteId} (hlinked : L.Linked order)
include hlinked

/-- A segment lists the routes that touch it, and each of them once. -/
theorem Linked.mem_routeIds {g : Segment} (hg : L.segments.get? t = some g) :
    r ∈ g.routeIds ↔ ∃ x, L.routes.get? r = some x ∧
      (t = x.config.origin ∨ .segment t ∈ x.config.items ∨ t = x.config.destination) := by
  rw [Segment.routeIds, List.mem_map]
  constructor
  · rintro ⟨⟨p, r⟩, hmem, rfl⟩
    obtain ⟨c, hc, -, ht⟩ := ((hlinked.segments t g hg).listed p r).1 hmem
    obtain ⟨x, hx, rfl⟩ := Option.map_eq_some_iff.1 hc
    exact ⟨x, hx, mem_segments.1 ht⟩
  · rintro ⟨x, hx, ht⟩
    have hc : L.config? r = some x.config := by rw [config?, hx, Option.map_some]
    have hmem := ((hlinked.segments t g hg).listed x.config.priority r).2
      ⟨_, hc, rfl, mem_segments.2 ht⟩
    exact ⟨_, hmem, rfl⟩

theorem Linked.knows_claims (href : L.Referenced) (hc : L.config? r = some c) :
    ∀ x ∈ c.claims, L.knows x = true := by
  have hsegment : ∀ t ∈ c.segments, L.segments.contains t = true := hlinked.touched r c hc
  intro x hx
  rcases mem_claims.1 hx with ⟨item, hitem, rfl⟩ | rfl
  · cases item with
    | segment t => exact hsegment t (mem_segments.2 (.inr (.inl hitem)))
    | accessory id o => exact href.accessories r c hc id (mem_map_accessories.2 ⟨o, hitem⟩)
  · exact hsegment _ (mem_segments.2 (.inr (.inr rfl)))

end Linked

/-- What is known has a lock. -/
theorem exists_lockOf?_of_knows {x : Claim} (h : L.knows x = true) :
    ∃ k, L.lockOf? x = some k := by
  refine Option.isSome_iff_exists.1 ?_
  cases x with
  | segment t => rwa [lockOf?, Option.isSome_map]
  | accessory id => rwa [lockOf?, Option.isSome_map]

/-- Everything that a registered route claims is there. -/
theorem Reachable.knows_claims (hL : L.Reachable) {x : Route} (hx : L.routes.get? r = some x) :
    ∀ y ∈ x.config.claims, L.knows y = true := by
  obtain ⟨order, horder⟩ := hL.addedInOrder
  have hconfig : L.config? r = some x.config := by rw [config?, hx, Option.map_some]
  exact horder.linked.2.knows_claims horder.referenced hconfig

/-- Releasing a registered route is not refused. -/
theorem Reachable.releaseRoute_eq (hL : L.Reachable) {x : Route}
    (hx : L.routes.get? r = some x) (l : LocoId) :
    L.releaseRoute r l = (true, L.releaseHeld l (x.config.items.map PathItem.claim)) := by
  have hall : (x.config.items.map PathItem.claim).all L.knows = true :=
    List.all_eq_true.2 fun y hy => hL.knows_claims hx y (List.mem_append_left _ hy)
  simp only [releaseRoute, hx, if_pos hall]

/-- **References.** In every layout that operations lead to, everything that a
registered route refers to is there. A segment lists exactly the registered routes
that touch it, each of them once and with its priority. So none of the operations
on a registered route is refused because something is not there: reserving goes on
to take the claims, locking is refused only because of a lock that the loco does not
hold, and releasing gives up what the loco holds. -/
theorem references_are_whole (hL : L.Reachable) :
    (∀ r x, L.routes.get? r = some x →
      (L.segments.get? x.config.origin).isSome ∧ (L.segments.get? x.config.destination).isSome ∧
      (∀ t, .segment t ∈ x.config.items → (L.segments.get? t).isSome) ∧
      (∀ id o, .accessory id o ∈ x.config.items → (L.accessories.get? id).isSome) ∧
      ∀ s ∈ x.config.speedSensors.toList, (L.sensors.get? s).isSome) ∧
    (∀ t g, L.segments.get? t = some g → ∀ r,
      (r ∈ g.routeIds ↔ ∃ x, L.routes.get? r = some x ∧
        (t = x.config.origin ∨ .segment t ∈ x.config.items ∨ t = x.config.destination)) ∧
      (r ∈ g.routeIds → g.routeIds.count r = 1) ∧
      ∀ p, (p, r) ∈ g.routes → ∃ x, L.routes.get? r = some x ∧ x.config.priority = p) ∧
    ∀ r x, L.routes.get? r = some x → ∀ l,
      L.reserveRoute r l = L.takeAll l x.config.claims ∧
      ((L.lockRoute r l).1 = false →
        ∃ y ∈ x.config.claims, ∃ k, L.lockOf? y = some k ∧ k.holder? ≠ some l) ∧
      L.releaseRoute r l = (true, L.releaseHeld l (x.config.items.map PathItem.claim)) := by
  obtain ⟨order, horder⟩ := hL.addedInOrder
  have hlinked := horder.linked.2
  have href := horder.referenced
  have hconfig : ∀ {r x}, L.routes.get? r = some x → L.config? r = some x.config := by
    intro r x hx
    rw [config?, hx, Option.map_some]
  refine ⟨fun r x hx => ?_, fun t g hg r => ⟨hlinked.mem_routeIds hg, fun hr => ?_, ?_⟩,
    fun r x hx l => ?_⟩
  · have hsegment := hlinked.touched r _ (hconfig hx)
    exact ⟨hsegment _ (mem_segments.2 (.inl rfl)),
      hsegment _ (mem_segments.2 (.inr (.inr rfl))),
      fun t ht => hsegment t (mem_segments.2 (.inr (.inl ht))),
      fun id o hid => href.accessories r _ (hconfig hx) id (mem_map_accessories.2 ⟨o, hid⟩),
      href.sensors r _ (hconfig hx)⟩
  · exact List.count_eq_one_of_mem (hlinked.nodup_routeIds hg) hr
  · intro p hp
    obtain ⟨c, hc, hpriority, -⟩ := ((hlinked.segments t g hg).listed p r).1 hp
    obtain ⟨x, hx, rfl⟩ := Option.map_eq_some_iff.1 hc
    exact ⟨x, hx, hpriority⟩
  · have hknows := hL.knows_claims hx
    refine ⟨?_, fun hrefused => ?_, hL.releaseRoute_eq hx l⟩
    · simp only [reserveRoute, hx, if_pos (List.all_eq_true.2 hknows)]
    · have hlocks := locksRoute_lockRoute hL.sound.calm hx l
      generalize L.lockRoute r l = result at hlocks hrefused
      cases hlocks with
      | all => cases hrefused
      | nothing hnot =>
        obtain ⟨y, hy, hno⟩ := hnot
        obtain ⟨k, hk⟩ := exists_lockOf?_of_knows (hknows y hy)
        exact ⟨y, hy, k, hk, fun hl => hno (heldBy_iff.2 ⟨k, hk, hl⟩)⟩

/-- A route that runs over its origin twice cannot lose what it refers to, while a
route that was refused for its last reference keeps nothing in place. -/
theorem references_are_whole_after_deletions :
    let route (r : UInt32) (destination : SegmentId) (items : List PathItem) : RouteConfig :=
      { id := ⟨r⟩, name := "R", priority := 3, origin := ⟨1⟩, destination := destination,
        items := items, speedSensors := { stop := some ⟨1⟩ } }
    let calls : List Call :=
      [.addSensor { id := ⟨1⟩, name := "S1", address := 1 },
       .addAccessory { id := ⟨1⟩, name := "A1", address := 1 },
       .addAccessory { id := ⟨2⟩, name := "A2", address := 2 },
       .addSegment { id := ⟨1⟩, name := "T1", length := 1, sensors := [] },
       .addSegment { id := ⟨2⟩, name := "T2", length := 1, sensors := [] },
       .addSegment { id := ⟨3⟩, name := "T3", length := 1, sensors := [] },
       .addRoute (route 1 ⟨2⟩ [.segment ⟨1⟩, .accessory ⟨1⟩ .on, .segment ⟨1⟩]),
       .addRoute (route 2 ⟨4⟩ [.accessory ⟨2⟩ .on, .segment ⟨3⟩]),
       .deleteSensor ⟨1⟩, .deleteAccessory ⟨1⟩, .deleteSegment ⟨2⟩,
       .deleteAccessory ⟨2⟩, .deleteSegment ⟨3⟩]
    let L := empty.run calls
    L.sensors.keys = [⟨1⟩] ∧ L.accessories.keys = [⟨1⟩] ∧ L.segments.keys = [⟨1⟩, ⟨2⟩] ∧
      (L.segments.get? ⟨1⟩).map Segment.routes = some [(3, ⟨1⟩)] ∧
      L.reserveRoute ⟨1⟩ ⟨7⟩ = L.takeAll ⟨7⟩
        [.segment ⟨1⟩, .accessory ⟨1⟩, .segment ⟨1⟩, .segment ⟨2⟩] := by
  intro route calls L
  have hL : L.Reachable := (Reachable.start .doNotCare .silent).run calls
  have hr : L.routes.get? ⟨1⟩ =
      some { config := route 1 ⟨2⟩ [.segment ⟨1⟩, .accessory ⟨1⟩ .on, .segment ⟨1⟩] } := by decide
  obtain ⟨-, -, hroutes⟩ := references_are_whole hL
  exact ⟨by decide, by decide, by decide, by decide, (hroutes ⟨1⟩ _ hr ⟨7⟩).1⟩

end Layout
end Interlocking
