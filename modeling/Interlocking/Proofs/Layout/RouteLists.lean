/-
The routes that segments list, in every layout that operations lead to.

A route is kept in two places: in the registry of routes, and in the list of
every segment that it touches. The lists agree with the registry (`Linked`): a
segment lists exactly the registered routes that touch it, with their
priorities; in particular every segment that a route touches is there. Three
operations could break this, and each has a guard or a loop against it.

A list is ordered by priority, and routes of one priority are listed in the
order in which they were registered. That order is no part of the layout, so it
is told by the history (`AddedInOrder`): after each step, the routes that are
still there, in their order, and then what is new.
-/
import Interlocking.Proofs.Layout.Reachable

set_option autoImplicit false

namespace Interlocking.Layout

variable {L M : Layout} {order : List RouteId} {t : SegmentId} {g : Segment} {r : RouteId}

/-! ## The history of the routes -/

/-- The registered routes from the oldest to the youngest, if they were those of
`order` before the last step. -/
def byAge (L : Layout) (order : List RouteId) : List RouteId :=
  order.filter L.routes.contains ++ L.routes.keys.filter fun r => !order.contains r

/-- The layouts that operations lead to, with their routes from the oldest to the
youngest. Loading is told object by object. -/
inductive AddedInOrder : Layout → List RouteId → Prop where
  | start (approach : Approach) (station : CommandStation) :
      AddedInOrder { defaultApproach := approach, station := station } []
  | call {L : Layout} {order : List RouteId} (h : AddedInOrder L order) (c : Call) :
      AddedInOrder (L.call c).2 ((L.call c).2.byAge order)
  | addStored {L : Layout} {order : List RouteId} (h : AddedInOrder L order) (key : EntityKey)
      (f : Fields) : AddedInOrder (L.addStored key f).2 ((L.addStored key f).2.byAge order)
  | count {L : Layout} {order : List RouteId} (h : AddedInOrder L order) (n : UInt64) :
      AddedInOrder { L with useCounter := n } order
  | elsewhere {L : Layout} {order : List RouteId} (h : AddedInOrder L order)
      (station : CommandStation) (notices : List Snapshot) :
      AddedInOrder { L with station := station, notices := notices } order

/-- The order of the routes after a run of calls. -/
def orderAfter (L : Layout) (order : List RouteId) : List Call → List RouteId
  | [] => order
  | c :: calls => (L.call c).2.orderAfter ((L.call c).2.byAge order) calls

theorem AddedInOrder.run (h : L.AddedInOrder order) (calls : List Call) :
    (L.run calls).AddedInOrder (L.orderAfter order calls) := by
  induction calls generalizing L order with
  | nil => exact h
  | cons c calls ih => exact ih (h.call c)

/-- Whatever operations lead to has such a history. -/
theorem Reachable.addedInOrder (hL : L.Reachable) : ∃ order, L.AddedInOrder order := by
  induction hL with
  | start approach station => exact ⟨[], .start approach station⟩
  | call _ c ih =>
    obtain ⟨order, h⟩ := ih
    exact ⟨_, h.call c⟩
  | load _ s ih =>
    refine load_keeps (P := fun L => ∃ order, L.AddedInOrder order) ?_ ?_ s ih
    · rintro key f L ⟨order, h⟩
      exact ⟨_, h.addStored key f⟩
    · rintro n L ⟨order, h⟩
      exact ⟨_, h.count n⟩
  | elsewhere _ station notices ih =>
    obtain ⟨order, h⟩ := ih
    exact ⟨_, h.elsewhere station notices⟩

/-! ## What the lists and the registry have to do with each other -/

/-- The configuration of a registered route. -/
def config? (L : Layout) (r : RouteId) : Option RouteConfig := (L.routes.get? r).map Route.config

/-- The segment at `t` is named so and lists the registered routes that touch it, by
priority and age. -/
structure ListsRoutes (L : Layout) (order : List RouteId) (t : SegmentId) (g : Segment) :
    Prop where
  id : g.id = t
  listed : ∀ p r, (p, r) ∈ g.routes ↔ ∃ c, L.config? r = some c ∧ c.priority = p ∧ t ∈ c.segments
  sorted : g.routes.Pairwise (Segment.Precedes order)

theorem ListsRoutes.of_config (h : L.ListsRoutes order t g)
    (hconfig : ∀ r, M.config? r = L.config? r) : M.ListsRoutes order t g := by
  refine ⟨h.id, fun p r => ?_, h.sorted⟩
  rw [hconfig]
  exact h.listed p r

/-- The lists of the segments and the registry of routes agree, and `order` are
the registered routes. -/
structure Linked (L : Layout) (order : List RouteId) : Prop where
  segments : ∀ t g, L.segments.get? t = some g → L.ListsRoutes order t g
  touched : ∀ r c, L.config? r = some c → ∀ t ∈ c.segments, (L.segments.get? t).isSome
  nodup : order.Nodup
  mem_order : ∀ r, r ∈ order ↔ (L.config? r).isSome

theorem Linked.of_same (h : L.Linked order) (hsegments : M.segments = L.segments)
    (hroutes : M.routes = L.routes) : M.Linked order := by
  have hconfig : ∀ r, M.config? r = L.config? r := by
    intro r
    rw [config?, config?, hroutes]
  refine ⟨fun t g hg => ?_, fun r c hc t ht => ?_, h.nodup, fun r => ?_⟩
  · rw [hsegments] at hg
    exact (h.segments t g hg).of_config hconfig
  · rw [hsegments]
    exact h.touched r c ((hconfig r).symm.trans hc) t ht
  · rw [hconfig]
    exact h.mem_order r

theorem contains_eq : L.routes.contains r = (L.config? r).isSome := by
  rw [Registry.contains, config?, Option.isSome_map]

theorem ListsRoutes.registered (h : L.ListsRoutes order t g) {x : UInt8 × RouteId}
    (hx : x ∈ g.routes) : (L.config? x.2).isSome := by
  obtain ⟨c, hc, -, -⟩ := (h.listed x.1 x.2).1 hx
  exact Option.isSome_iff_exists.2 ⟨c, hc⟩

theorem Linked.contains_iff (h : L.Linked order) : L.routes.contains r = true ↔ r ∈ order := by
  rw [contains_eq, h.mem_order]

theorem Linked.mem_keys (h : L.Linked order) : r ∈ L.routes.keys ↔ r ∈ order := by
  rw [Registry.mem_keys_iff, h.mem_order, config?, Option.isSome_map]

/-! The order after a step is told from the registry alone. It is the order that
one expects where no route came or went, where one came, and where one went. -/

theorem Linked.byAge_eq (h : L.Linked order) : L.byAge order = order := by
  have hold : order.filter L.routes.contains = order :=
    List.filter_eq_self.2 fun r hr => h.contains_iff.2 hr
  have hnew : (L.routes.keys.filter fun r => !order.contains r) = [] :=
    List.filter_eq_nil_iff.2 fun r hr => by simpa using h.mem_keys.1 hr
  rw [byAge, hold, hnew, List.append_nil]

theorem Linked.byAge_append (h : L.Linked (order ++ [r])) : L.byAge order = order ++ [r] := by
  have hout : r ∉ order := fun hr => (List.nodup_append.1 h.nodup).2.2 r hr r (by simp) rfl
  have hold : order.filter L.routes.contains = order :=
    List.filter_eq_self.2 fun r' hr' => h.contains_iff.2 (List.mem_append_left _ hr')
  have hnew : (L.routes.keys.filter fun r' => !order.contains r') = [r] := by
    refine List.perm_singleton.1 ((List.perm_ext_iff_of_nodup ?_ (by simp)).2 fun r' => ?_)
    · exact L.routes.nodup_keys.filter _
    · rw [List.mem_filter, h.mem_keys, List.mem_append, Bool.not_eq_true', List.contains_eq_mem,
        decide_eq_false_iff_not]
      constructor
      · rintro ⟨hold | hnew, hout⟩
        · exact absurd hold hout
        · exact hnew
      · intro hr'
        exact ⟨.inr hr', by rwa [List.mem_singleton.1 hr']⟩
  rw [byAge, hold, hnew]

theorem Linked.byAge_filter (h : L.Linked (order.filter fun r' => decide (r' ≠ r))) :
    L.byAge order = order.filter fun r' => decide (r' ≠ r) := by
  have hold : order.filter L.routes.contains = order.filter fun r' => decide (r' ≠ r) := by
    refine List.filter_congr fun r' hr' => ?_
    rw [Bool.eq_iff_iff, h.contains_iff, List.mem_filter]
    exact and_iff_right hr'
  have hnew : (L.routes.keys.filter fun r' => !order.contains r') = [] := by
    refine List.filter_eq_nil_iff.2 fun r' hr' => ?_
    simpa using (List.mem_filter.1 (h.mem_keys.1 hr')).1
  rw [byAge, hold, hnew, List.append_nil]

theorem byAge_congr (h : ∀ r, M.config? r = L.config? r) : M.byAge order = L.byAge order := by
  have hsame : ∀ r, M.routes.contains r = L.routes.contains r := by
    intro r
    rw [contains_eq, contains_eq, h]
  have hkeys : M.routes.keys = L.routes.keys := Registry.keys_congr hsame
  rw [byAge, byAge, hkeys, funext hsame]

/-! ## One segment

A segment takes note of a route that comes and forgets a route that goes, if the
route touches it. If not, its list is right without a change. -/

section Segments

variable {c : RouteConfig}

theorem ListsRoutes.addRoute (h : L.ListsRoutes order t g)
    (hold : ∀ r, (L.config? r).isSome → r ∈ order) (hnew : L.config? c.id = none)
    (hconfig : ∀ r, M.config? r = if r = c.id then some c else L.config? r) :
    M.ListsRoutes (order ++ [c.id]) t
      (if t ∈ c.segments then (g.addRoute c.id c.priority).2 else g) := by
  have hunlisted : ∀ x ∈ g.routes, x.2 ≠ c.id := by
    intro x hx heq
    have hsome := h.registered hx
    rw [heq, hnew] at hsome
    cases hsome
  split
  next ht =>
    have hout : c.id ∉ g.routeIds := by
      intro hmem
      obtain ⟨x, hx, heq⟩ := List.mem_map.1 hmem
      exact hunlisted x hx heq
    have hroutes := Segment.routes_addRoute (p := c.priority) hout
    refine ⟨by rw [Segment.id_addRoute, h.id], fun p r => ?_, ?_⟩
    · rw [hroutes, Segment.mem_insertRoute, hconfig]
      by_cases hr : r = c.id
      · -- The new route is listed where it was put, and nowhere else.
        subst hr
        have hnowhere : (p, c.id) ∉ g.routes := fun hmem => hunlisted _ hmem rfl
        simp [hnowhere, ht, eq_comm]
      · simp only [hr, Prod.mk.injEq, and_false, false_or, if_false]
        exact h.listed p r
    · rw [hroutes]
      exact Segment.pairwise_insertRoute h.sorted fun x hx => hold x.2 (h.registered hx)
  next ht =>
    refine ⟨h.id, fun p r => ?_, h.sorted.imp fun hxy => hxy.append c.id⟩
    rw [hconfig]
    by_cases hr : r = c.id
    · subst hr
      refine iff_of_false (fun hmem => hunlisted _ hmem rfl) ?_
      simp [ht]
    · rw [if_neg hr]
      exact h.listed p r

theorem ListsRoutes.deleteRoute (h : L.ListsRoutes order t g) (hr : L.config? r = some c)
    (hconfig : ∀ r', M.config? r' = if r' = r then none else L.config? r') :
    M.ListsRoutes (order.filter fun r' => decide (r' ≠ r)) t
      (if t ∈ c.segments then (g.removeRoute r).2 else g) := by
  -- Where the route is not forgotten it is not listed, so it is off the list either way.
  have hoff : (if t ∈ c.segments then (g.removeRoute r).2 else g).routes =
      g.routes.filter fun x => decide (x.2 ≠ r) := by
    split
    · rfl
    next ht =>
      refine (List.filter_eq_self.2 fun x hx => ?_).symm
      have hne : x.2 ≠ r := by
        intro heq
        obtain ⟨c', hc', -, htc⟩ := (h.listed x.1 x.2).1 hx
        rw [heq, hr] at hc'
        cases hc'
        exact ht htc
      exact decide_eq_true hne
  refine ⟨?_, fun p r' => ?_, ?_⟩
  · split
    · exact h.id
    · exact h.id
  · rw [hoff, List.mem_filter, h.listed, hconfig]
    by_cases hne : r' = r <;> simp [hne]
  · rw [hoff]
    refine (h.sorted.filter _).imp_of_mem fun hx hy hxy => ?_
    exact hxy.filter (List.mem_filter.1 hx).2 (List.mem_filter.1 hy).2

end Segments

/-! ## One operation -/

section Operations

variable {P : Deed → Prop} (hP : ∀ t c, P (.segment t c) → ¬ c.Lists)
include hP

theorem Linked.called (h : L.Linked order) (hM : L.Called P M) : M.Linked order := by
  have hconfig : ∀ r, M.config? r = L.config? r := hM.routes
  refine ⟨fun t g' hg' => ?_, fun r c hc t ht => ?_, h.nodup, fun r => ?_⟩
  · obtain ⟨calls, hcalls, hsame⟩ := hM.segments t
    obtain ⟨g, hg, rfl⟩ := Option.map_eq_some_iff.1 (hsame.symm.trans hg')
    obtain ⟨hid, hroutes⟩ := g.run_keeps fun c hc => hP t c (hcalls c hc)
    have hlists := (h.segments t g hg).of_config hconfig
    exact ⟨hid.trans hlists.id, by rw [hroutes]; exact hlists.listed,
      by rw [hroutes]; exact hlists.sorted⟩
  · obtain ⟨calls, -, hsame⟩ := hM.segments t
    rw [hsame, Option.isSome_map]
    exact h.touched r c ((hconfig r).symm.trans hc) t ht
  · rw [hconfig]
    exact h.mem_order r

omit hP

/-- A new segment lists no route, and no route was waiting for it. -/
theorem Linked.addSegment (h : L.Linked order) (ht : L.segments.get? t = none) (hid : g.id = t)
    (hroutes : g.routes = []) : Linked { L with segments := L.segments.insert t g } order := by
  refine ⟨fun t' g' hg' => ?_, fun r c hc t' ht' => ?_, h.nodup, h.mem_order⟩
  · dsimp only at hg'
    rw [Registry.get?_insert] at hg'
    split at hg'
    next heq =>
      obtain rfl := Option.some.inj hg'
      subst heq
      refine ⟨hid, fun p r => ?_, by rw [hroutes]; exact .nil⟩
      rw [hroutes]
      refine iff_of_false List.not_mem_nil ?_
      rintro ⟨c, hc, -, hmem⟩
      -- A route that touches the segment would have needed it before.
      have hsome := h.touched r c hc t' hmem
      rw [ht] at hsome
      cases hsome
    next => exact (h.segments t' g' hg').of_config fun _ => rfl
  · dsimp only
    rw [Registry.get?_insert]
    split
    · rfl
    · exact h.touched r c hc t' ht'

/-- A segment that lists no route is touched by none. -/
theorem Linked.deleteSegment (h : L.Linked order) (hg : L.segments.get? t = some g)
    (hroutes : g.routes = []) : Linked { L with segments := L.segments.erase t } order := by
  refine ⟨fun t' g' hg' => ?_, fun r c hc t' ht' => ?_, h.nodup, h.mem_order⟩
  · dsimp only at hg'
    rw [Registry.get?_erase] at hg'
    split at hg'
    · cases hg'
    · exact (h.segments t' g' hg').of_config fun _ => rfl
  · have hne : t' ≠ t := by
      rintro rfl
      have hmem := ((h.segments t' g hg).listed c.priority r).2 ⟨c, hc, rfl, ht'⟩
      rw [hroutes] at hmem
      cases hmem
    dsimp only
    rw [Registry.get?_erase, if_neg hne]
    exact h.touched r c hc t' ht'

theorem get?_of_missingReference {c : RouteConfig} (h : L.missingReference c = none) :
    ∀ t ∈ c.segments, (L.segments.get? t).isSome := by
  intro t ht
  simp only [missingReference, Option.orElse_eq_orElse, Option.orElse_eq_or, Option.or_eq_none_iff,
    Option.map_eq_none_iff, List.find?_eq_none] at h
  simpa [Registry.contains, Option.isSome_iff_ne_none] using h.2.2 t ht

/-- A new route is put behind the others of its priority, at every segment that it
touches. -/
theorem Linked.addRoute (h : L.Linked order) {c : RouteConfig} (hnew : L.config? c.id = none)
    (hrefs : ∀ t ∈ c.segments, (L.segments.get? t).isSome)
    (hconfig : ∀ r, M.config? r = if r = c.id then some c else L.config? r)
    (hsegments : ∀ t, M.segments.get? t = (L.segments.get? t).map fun g =>
      if t ∈ c.segments then (g.addRoute c.id c.priority).2 else g) :
    M.Linked (order ++ [c.id]) := by
  refine ⟨fun t g' hg' => ?_, fun r c' hc' t ht => ?_, ?_, fun r => ?_⟩
  · obtain ⟨g, hg, rfl⟩ := Option.map_eq_some_iff.1 ((hsegments t).symm.trans hg')
    exact (h.segments t g hg).addRoute (fun r hr => (h.mem_order r).2 hr) hnew hconfig
  · rw [hsegments, Option.isSome_map]
    rw [hconfig] at hc'
    split at hc'
    · cases hc'
      exact hrefs t ht
    · exact h.touched r c' hc' t ht
  · have hout : c.id ∉ order := by
      rw [h.mem_order, hnew]
      simp
    refine List.nodup_append.2 ⟨h.nodup, by simp, fun r hr r' hr' heq => hout ?_⟩
    rw [← List.mem_singleton.1 hr', ← heq]
    exact hr
  · rw [List.mem_append, List.mem_singleton, h.mem_order, hconfig]
    by_cases hr : r = c.id <;> simp [hr]

/-- A route that goes is forgotten by every segment that it touches. -/
theorem Linked.deleteRoute (h : L.Linked order) {c : RouteConfig} (hr : L.config? r = some c)
    (hconfig : ∀ r', M.config? r' = if r' = r then none else L.config? r')
    (hsegments : ∀ t, M.segments.get? t = (L.segments.get? t).map fun g =>
      if t ∈ c.segments then (g.removeRoute r).2 else g) :
    M.Linked (order.filter fun r' => decide (r' ≠ r)) := by
  refine ⟨fun t g' hg' => ?_, fun r' c' hc' t ht => ?_, h.nodup.filter _, fun r' => ?_⟩
  · obtain ⟨g, hg, rfl⟩ := Option.map_eq_some_iff.1 ((hsegments t).symm.trans hg')
    exact (h.segments t g hg).deleteRoute hr hconfig
  · rw [hsegments, Option.isSome_map]
    rw [hconfig] at hc'
    split at hc'
    · cases hc'
    · exact h.touched r' c' hc' t ht
  · rw [List.mem_filter, h.mem_order, hconfig]
    by_cases hne : r' = r <;> simp [hne]

theorem config?_modifySegments (ids : List SegmentId) (change : Segment → Segment) :
    (L.modifySegments ids change).config? = L.config? := by
  rw [modifySegments_eq]
  rfl

include hP in
/-- **One operation** keeps lists and registry in agreement, and the order is the
old one without what went and with what came. -/
theorem Linked.does (h : L.Linked order) (hM : L.Does P M) : M.Linked (M.byAge order) := by
  cases hM with
  | calls hM =>
    have hlinked := h.called hP hM
    rwa [hlinked.byAge_eq]
  | addsSegment hM c sensors hnew =>
    obtain ⟨hid, hroutes⟩ := (Segment.ofConfig c).call_keeps (c := .setSensors sensors) nofun
    have hlinked := (h.called hP hM).addSegment hnew hid hroutes
    rwa [hlinked.byAge_eq]
  | deletesSegment hM hg huse hroutes =>
    have hlinked := (h.called hP hM).deleteSegment hg hroutes
    rwa [hlinked.byAge_eq]
  | addsAccessory c hnew =>
    have hlinked : Linked { L with accessories := L.accessories.insert c.id (.ofConfig c) } order :=
      h.of_same rfl rfl
    rwa [hlinked.byAge_eq]
  | @deletesAccessory id a ha hfree hunused =>
    have hlinked : Linked { L with accessories := L.accessories.erase id } order :=
      h.of_same rfl rfl
    rwa [hlinked.byAge_eq]
  | addsRoute c hnew hrefs =>
    have hlinked := h.addRoute (by rw [config?, hnew, Option.map_none])
      (get?_of_missingReference hrefs)
      (M := modifySegments c.segments (fun g => (g.addRoute c.id c.priority).2)
        { L with routes := L.routes.insert c.id { config := c } })
      (fun r => by
        rw [config?_modifySegments, config?, Registry.get?_insert, config?]
        split <;> rfl)
      (get?_modifySegments (fun _ => Segment.addRoute_addRoute) c.segments)
    rwa [hlinked.byAge_append]
  | @deletesRoute r x hr =>
    have hlinked := h.deleteRoute (r := r) (c := x.config) (by rw [config?, hr, Option.map_some])
      (M := modifySegments x.config.segments (fun g => (g.removeRoute r).2)
        { L with routes := L.routes.erase r })
      (fun r' => by
        rw [config?_modifySegments, config?, Registry.get?_erase, config?]
        split <;> rfl)
      (get?_modifySegments (fun _ => Segment.removeRoute_removeRoute) x.config.segments)
    rwa [hlinked.byAge_filter]

end Operations

/-! ## Every history -/

/-- An operation makes no calls that list or forget a route. -/
theorem Call.Makes.not_lists {c : Call} {call : Segment.Call} (h : c.Makes (.segment t call)) :
    ¬ call.Lists := by
  intro hlists
  cases hlists with
  | addRoute | removeRoute =>
    cases h with
    | updateSegment c sensors hset => simp [settingCalls] at hset

/-- **Lists and registry agree** in every layout that operations lead to, and the
lists go by age. -/
theorem AddedInOrder.linked (h : L.AddedInOrder order) : L.Sound ∧ L.Linked order := by
  induction h with
  | start approach station =>
    refine ⟨⟨rfl, ?_⟩, ?_, ?_, .nil, ?_⟩
    all_goals simp [config?]
  | call _ c ih =>
    obtain ⟨hsound, hlinked⟩ := ih
    exact ⟨hsound.call c, hlinked.does (fun _ _ hmakes => hmakes.not_lists) (does_call hsound c)⟩
  | @addStored L order _ key f ih =>
    obtain ⟨hsound, hlinked⟩ := ih
    -- A stored route is stamped after it was added, and keeps its configuration.
    obtain ⟨N, hadds, hstamps⟩ := does_addStored (P := fun _ => False) hsound.calm key f
    have hadded := (hlinked.does (fun _ _ hno => hno.elim) hadds).called
      (fun _ _ hno => hno.elim) hstamps
    rw [byAge_congr hstamps.routes]
    exact ⟨hsound.addStored key f, hadded⟩
  | count _ n ih =>
    obtain ⟨hsound, hlinked⟩ := ih
    exact ⟨⟨hsound.calm, hsound.segments⟩, hlinked.of_same rfl rfl⟩
  | elsewhere _ station notices ih =>
    obtain ⟨hsound, hlinked⟩ := ih
    exact ⟨⟨hsound.calm, hsound.segments⟩, hlinked.of_same rfl rfl⟩

end Interlocking.Layout
