/-
Selecting routes, in every layout that operations lead to.

Selection walks the list of the segment that the loco stands on. Since the lists
of the segments agree with the registry of routes, the same routes would be
found by going through all registered routes, and no route is found twice. The
list goes by priority and age, and sorting by what the approach asks for leaves
ties in that order.
-/
import Interlocking.Proofs.Layout.RouteLists
import Interlocking.Proofs.Layout.Selection
import Mathlib.Data.List.Nodup

set_option autoImplicit false

namespace Interlocking

/-! ## The specification -/

/-- The approach in effect: the one that is asked for, or else the one of the
segment, or else the one of the layout, or else none in particular. -/
def Approach.inEffect (asked own common : Approach) : Approach :=
  if asked ≠ .systemDefault then asked
  else if own ≠ .systemDefault then own
  else if common ≠ .systemDefault then common
  else .doNotCare

namespace Layout

variable {L : Layout} {order : List RouteId} {t : SegmentId} {l : LocoId} {turn : Bool}
  {asked : Approach} {g : Segment} {r : RouteId}

/-- What an approach goes by: the length of the destination, or the stamp. -/
def approachKey (L : Layout) : Approach → Route → Nat
  | .minTrackLength, x => (L.segments.get? x.config.destination).elim 0 fun g => g.length.toNat
  | .longestUnused, x => x.lastUsed.toNat
  | _, _ => 0

/-- Which of two registered routes is offered first: by what the approach goes by,
then by priority, then by age. -/
def Ahead (L : Layout) (a : Approach) (order : List RouteId) (r s : RouteId) : Prop :=
  ∃ x y, L.routes.get? r = some x ∧ L.routes.get? s = some y ∧
    (L.approachKey a x < L.approachKey a y ∨ L.approachKey a x = L.approachKey a y ∧
      (x.config.priority < y.config.priority ∨
        x.config.priority = y.config.priority ∧ [r, s].Sublist order))

/-! ## What is listed -/

theorem approachFor_eq : L.approachFor g asked = asked.inEffect g.approach L.defaultApproach := by
  rw [approachFor, Approach.resolve, Approach.inEffect]
  cases asked <;> cases g.approach <;> cases L.defaultApproach <;> rfl

theorem Linked.nodup_routeIds (h : L.Linked order) (hg : L.segments.get? t = some g) :
    g.routeIds.Nodup := by
  have hlists := h.segments t g hg
  refine List.pairwise_map.2 (hlists.sorted.imp_of_mem fun {x y} hx hy hxy heq => ?_)
  -- One route has one priority, and it is not older than itself.
  obtain ⟨c, hc, hpx, -⟩ := (hlists.listed x.1 x.2).1 hx
  obtain ⟨c', hc', hpy, -⟩ := (hlists.listed y.1 y.2).1 hy
  rw [heq, hc'] at hc
  cases hc
  rcases hxy with hlt | ⟨-, hage⟩
  · rw [← hpx, ← hpy] at hlt
    exact UInt8.lt_irrefl _ hlt
  · rw [heq] at hage
    simpa using hage.nodup h.nodup

/-- **The full scan.** The listed routes are the registered ones that suit the loco
and can be had. -/
theorem Linked.mem_selectRoutes [Shuffling] (h : L.Linked order) :
    r ∈ L.selectRoutes t l turn asked ↔ ∃ x, L.routes.get? r = some x ∧
      L.Suits t l turn x.config ∧ ∀ c ∈ x.config.claims, L.Obtainable l c := by
  rw [Layout.mem_selectRoutes]
  constructor
  · rintro ⟨g, x, hg, -, hr, hoffers⟩
    exact ⟨x, hr, (offers_iff hg (h.segments t g hg).id).1 hoffers⟩
  · rintro ⟨x, hr, hsuits, hclaims⟩
    -- The origin of the route is there and lists it.
    have hconfig : L.config? r = some x.config := by rw [config?, hr, Option.map_some]
    have htouched : t ∈ x.config.segments := by simp [RouteConfig.segments, hsuits.origin]
    obtain ⟨g, hg⟩ := Option.isSome_iff_exists.1 (h.touched r _ hconfig t htouched)
    have hlisted := ((h.segments t g hg).listed x.config.priority r).2 ⟨_, hconfig, rfl, htouched⟩
    exact ⟨g, x, hg, List.mem_map.2 ⟨_, hlisted, rfl⟩, hr,
      (offers_iff hg (h.segments t g hg).id).2 ⟨hsuits, hclaims⟩⟩

/-! ## In which order -/

/-- A candidate carries what the approaches go by. -/
theorem of_mem_candidates {x : Candidate}
    (hx : x ∈ g.routeIds.filterMap (L.candidate? g l turn)) :
    ∃ route, L.routes.get? x.route = some route ∧ ∀ a : Approach, a.key x = L.approachKey a route := by
  obtain ⟨r, -, hr⟩ := List.mem_filterMap.1 hx
  obtain ⟨route, destination, hroute, hdestination, -, rfl⟩ := candidate?_eq_some_iff.1 hr
  refine ⟨route, hroute, fun a => ?_⟩
  cases a <;> simp [Approach.key, approachKey, hdestination]

theorem map_route_candidates_sublist (ids : List RouteId) :
    ((ids.filterMap (L.candidate? g l turn)).map Candidate.route).Sublist ids := by
  induction ids with
  | nil => exact .slnil
  | cons r ids ih =>
    rw [List.filterMap_cons]
    split
    · exact ih.cons r
    next x hx =>
      obtain ⟨route, destination, -, -, -, rfl⟩ := candidate?_eq_some_iff.1 hx
      exact ih.cons_cons r

theorem Linked.nodup_candidates (h : L.Linked order) (hg : L.segments.get? t = some g) :
    ((g.routeIds.filterMap (L.candidate? g l turn)).map Candidate.route).Nodup :=
  (h.nodup_routeIds hg).sublist (map_route_candidates_sublist _)

/-- The candidates come in the order of the list, by priority and age. -/
theorem Linked.pairwise_candidates (h : L.Linked order) (hg : L.segments.get? t = some g) :
    (g.routeIds.filterMap (L.candidate? g l turn)).Pairwise fun x y =>
      ∀ a b, L.routes.get? x.route = some a → L.routes.get? y.route = some b →
        Segment.Precedes order (a.config.priority, x.route) (b.config.priority, y.route) := by
  have hlists := h.segments t g hg
  -- The list goes by the noted priorities, and these are the registered ones.
  have hpriority : ∀ p r, (p, r) ∈ g.routes → ∀ a, L.routes.get? r = some a →
      a.config.priority = p := by
    intro p r hmem a ha
    obtain ⟨c, hc, hp, -⟩ := (hlists.listed p r).1 hmem
    rw [config?, ha] at hc
    cases hc
    exact hp
  rw [Segment.routeIds, List.filterMap_map, List.pairwise_filterMap]
  refine hlists.sorted.imp_of_mem fun {x y} hx hy hxy c hc d hd a b ha hb => ?_
  obtain ⟨_, _, -, -, -, rfl⟩ := candidate?_eq_some_iff.1 hc
  obtain ⟨_, _, -, -, -, rfl⟩ := candidate?_eq_some_iff.1 hd
  rw [hpriority x.1 x.2 hx a ha, hpriority y.1 y.2 hy b hb]
  exact hxy

/-- **The order of the list.** -/
theorem Linked.pairwise_selectRoutes [Shuffling] (h : L.Linked order)
    (hg : L.segments.get? t = some g) (happroach : L.approachFor g asked ≠ .random) :
    (L.selectRoutes t l turn asked).Pairwise (L.Ahead (L.approachFor g asked) order) := by
  -- No candidate comes twice, so which of two came first is well told.
  have hnodup : (g.routeIds.filterMap (L.candidate? g l turn)).Nodup :=
    List.Nodup.of_map _ (h.nodup_candidates hg)
  have hsorted := Approach.pairwise_order happroach hnodup (h.pairwise_candidates hg)
  simp only [selectRoutes, hg]
  refine List.pairwise_map.2 (hsorted.imp_of_mem fun {x y} hx hy hxy => ?_)
  obtain ⟨a, ha, hkeya⟩ := of_mem_candidates ((Approach.order_perm _ _).subset hx)
  obtain ⟨b, hb, hkeyb⟩ := of_mem_candidates ((Approach.order_perm _ _).subset hy)
  rw [hkeya, hkeyb] at hxy
  exact ⟨a, b, ha, hb, hxy.imp_right fun htie => ⟨htie.1, htie.2 a b ha hb⟩⟩

theorem Linked.nodup_selectRoutes [Shuffling] (h : L.Linked order) :
    (L.selectRoutes t l turn asked).Nodup := by
  rw [selectRoutes]
  cases hg : L.segments.get? t with
  | none => exact .nil
  | some g =>
    have hperm := ((L.approachFor g asked).order_perm
      (g.routeIds.filterMap (L.candidate? g l turn))).map Candidate.route
    exact hperm.nodup_iff.2 (h.nodup_candidates hg)

/-- **Selecting routes.** In every layout that operations lead to, the routes listed
for a loco on a segment are exactly those registered routes that suit the loco and
of which it can have every claim, each of them once. The list has the order of the
approach in effect, unless that is a random one; ties go by priority, and then by
the order in which the routes were registered, which is told by the history. -/
theorem selectRoutes_exact [Shuffling] (hL : L.Reachable) (t : SegmentId) (l : LocoId) (turn : Bool)
    (asked : Approach) :
    (∀ r, r ∈ L.selectRoutes t l turn asked ↔ ∃ x, L.routes.get? r = some x ∧
        L.Suits t l turn x.config ∧ ∀ c ∈ x.config.claims, L.Obtainable l c) ∧
      (L.selectRoutes t l turn asked).Nodup ∧
      (∃ order, L.AddedInOrder order) ∧
      ∀ order, L.AddedInOrder order → ∀ g, L.segments.get? t = some g →
        asked.inEffect g.approach L.defaultApproach ≠ .random →
          (L.selectRoutes t l turn asked).Pairwise
            (L.Ahead (asked.inEffect g.approach L.defaultApproach) order) := by
  obtain ⟨order, horder⟩ := hL.addedInOrder
  have hlinked := horder.linked.2
  refine ⟨fun r => hlinked.mem_selectRoutes, hlinked.nodup_selectRoutes, ⟨order, horder⟩, ?_⟩
  intro order' horder' g hg happroach
  rw [← approachFor_eq] at happroach ⊢
  exact horder'.linked.2.pairwise_selectRoutes hg happroach

/-- Three routes leave a segment. The second is deleted and registered again, which
puts it behind the third; the first has the greatest priority number and comes
last, although only the third is older. -/
theorem selectRoutes_after_readding :
    let route (r : UInt32) (priority : UInt8) : RouteConfig :=
      { id := ⟨r⟩, name := "R", priority := priority, origin := ⟨1⟩, destination := ⟨2⟩ }
    let calls : List Call :=
      [.addSegment { id := ⟨1⟩, name := "T1", length := 1, sensors := [] },
       .addSegment { id := ⟨2⟩, name := "T2", length := 1, sensors := [] },
       .addRoute (route 2 0), .addRoute (route 3 0), .addRoute (route 1 1),
       .deleteRoute ⟨2⟩, .addRoute (route 2 0)]
    let L := empty.run calls
    L.AddedInOrder [⟨3⟩, ⟨1⟩, ⟨2⟩] ∧ L.selectRoutes ⟨1⟩ ⟨7⟩ false .systemDefault = [⟨3⟩, ⟨2⟩, ⟨1⟩] ∧
      (L.selectRoutes ⟨1⟩ ⟨7⟩ false .systemDefault).Pairwise
        (L.Ahead .doNotCare [⟨3⟩, ⟨1⟩, ⟨2⟩]) := by
  intro route calls L
  have hL : L.Reachable := (Reachable.start .doNotCare .silent).run calls
  have horder : L.AddedInOrder [⟨3⟩, ⟨1⟩, ⟨2⟩] := by
    have hrun : L.AddedInOrder (orderAfter empty [] calls) :=
      (AddedInOrder.start .doNotCare .silent).run calls
    have heq : orderAfter empty [] calls = [⟨3⟩, ⟨1⟩, ⟨2⟩] := by decide
    rwa [heq] at hrun
  have happroaches : (L.segments.get? ⟨1⟩).map Segment.approach = some .systemDefault ∧
      L.defaultApproach = .doNotCare := by decide
  obtain ⟨g, hg, hown⟩ := Option.map_eq_some_iff.1 happroaches.1
  obtain ⟨-, -, -, hsorted⟩ := selectRoutes_exact hL ⟨1⟩ ⟨7⟩ false .systemDefault
  have hsorted := hsorted _ horder g hg
  rw [hown, happroaches.2] at hsorted
  exact ⟨horder, by decide, hsorted (by decide)⟩

end Layout
end Interlocking
