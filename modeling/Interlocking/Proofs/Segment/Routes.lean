/-
The routes that a segment lists.

A segment lists the routes that touch it by priority, and routes of one priority
by age. The age of routes is not written down anywhere: a route is put behind
all routes of its priority, and that is the right place because it is the
youngest. `order` stands for the routes from the oldest to the youngest.
-/
import Interlocking.Proofs.Segment.Sensors

set_option autoImplicit false

namespace Interlocking.Segment

variable {g : Segment} {r : RouteId} {p : UInt8} {order : List RouteId}
  {routes : List (UInt8 × RouteId)}

/-! ## What is listed -/

theorem mem_insertRoute {x : UInt8 × RouteId} :
    x ∈ insertRoute p r routes ↔ x = (p, r) ∨ x ∈ routes := by
  induction routes with
  | nil => simp [insertRoute]
  | cons y routes ih =>
    rw [insertRoute]
    split
    · rw [List.mem_cons, ih, List.mem_cons]
      exact or_left_comm
    · rw [List.mem_cons]

theorem mem_routeIds_addRoute : r ∈ (g.addRoute r p).2.routeIds := by
  rw [addRoute]
  split
  next h => exact h
  next h =>
    have hmem : (p, r) ∈ insertRoute p r g.routes := mem_insertRoute.2 (.inl rfl)
    exact List.mem_map.2 ⟨_, hmem, rfl⟩

theorem id_addRoute : (g.addRoute r p).2.id = g.id := by
  rw [addRoute]
  split <;> rfl

/-- Noting a route changes nothing but the list of routes. -/
theorem addRoute_frame (g : Segment) (r : RouteId) (p : UInt8) :
    ∃ routes, (g.addRoute r p).2 = { g with routes := routes } := by
  rw [addRoute]
  split <;> exact ⟨_, rfl⟩

theorem routes_addRoute (hr : r ∉ g.routeIds) :
    (g.addRoute r p).2.routes = insertRoute p r g.routes := by
  rw [addRoute, if_neg hr]

theorem addRoute_addRoute : ((g.addRoute r p).2.addRoute r p).2 = (g.addRoute r p).2 := by
  rw [addRoute, if_pos mem_routeIds_addRoute]

theorem removeRoute_removeRoute : ((g.removeRoute r).2.removeRoute r).2 = (g.removeRoute r).2 := by
  simp only [removeRoute, List.filter_filter, Bool.and_self]

theorem filter_insertRoute (h : ∀ x ∈ routes, x.2 ≠ r) :
    (insertRoute p r routes).filter (fun x => decide (x.2 ≠ r)) = routes := by
  induction routes with
  | nil => simp [insertRoute]
  | cons x routes ih =>
    rw [insertRoute]
    split
    · rw [List.filter_cons, if_pos (decide_eq_true (h x List.mem_cons_self)),
        ih fun y hy => h y (List.mem_cons_of_mem _ hy)]
    · rw [List.filter_cons, if_neg (by simp)]
      exact List.filter_eq_self.2 fun y hy => decide_eq_true (h y hy)

/-- A route that is noted where it was not, wherever it finds its place, is forgotten
without a trace. -/
theorem removeRoute_addRoute (hr : r ∉ g.routeIds) : ((g.addRoute r p).2.removeRoute r).2 = g := by
  have hother : ∀ x ∈ g.routes, x.2 ≠ r := fun x hx heq => hr (List.mem_map.2 ⟨x, hx, heq⟩)
  rw [addRoute, if_neg hr, removeRoute]
  dsimp only
  rw [filter_insertRoute hother]

/-- The calls that change the list of routes. -/
inductive Call.Lists : Call → Prop where
  | addRoute (r : RouteId) (p : UInt8) : Lists (.addRoute r p)
  | removeRoute (r : RouteId) : Lists (.removeRoute r)

/-- No other call changes the list, and none the id. -/
theorem call_keeps (g : Segment) {c : Call} (hc : ¬ c.Lists) :
    (g.call c).segment.id = g.id ∧ (g.call c).segment.routes = g.routes := by
  cases hreport : c.isReport with
  | true =>
    obtain ⟨sensors, o, k, p, shown, h⟩ := g.report_frame hreport
    rw [h]
    exact ⟨rfl, rfl⟩
  | false =>
    cases hsetting : c.isSetting with
    | false =>
      obtain ⟨k, p, shown, h⟩ := g.call_frame hsetting hreport
      rw [h]
      exact ⟨rfl, rfl⟩
    | true =>
      cases c with
      | addRoute r p => exact absurd (.addRoute r p) hc
      | removeRoute r => exact absurd (.removeRoute r) hc
      | setOrientation o =>
        rw [call, Outcome.accepted, segment_setOrientation]
        exact ⟨rfl, rfl⟩
      | setBlocked b =>
        rw [call, Outcome.accepted, segment_setBlocked]
        exact ⟨rfl, rfl⟩
      | setName | setKind | setLength | setReleaseWhenFree | setApproach => exact ⟨rfl, rfl⟩
      | _ => cases hsetting

theorem run_keeps (g : Segment) {calls : List Call} (hcalls : ∀ c ∈ calls, ¬ c.Lists) :
    (g.run calls).id = g.id ∧ (g.run calls).routes = g.routes := by
  refine List.foldlRecOn calls (motive := fun g' : Segment => g'.id = g.id ∧ g'.routes = g.routes) _
    ⟨rfl, rfl⟩ fun g' hg' c hc => ?_
  obtain ⟨hid, hroutes⟩ := g'.call_keeps (hcalls c hc)
  exact ⟨hid.trans hg'.1, hroutes.trans hg'.2⟩

/-! ## In which order -/

/-- The order of the list: by priority, and within a priority by age. -/
def Precedes (order : List RouteId) (x y : UInt8 × RouteId) : Prop :=
  x.1 < y.1 ∨ x.1 = y.1 ∧ [x.2, y.2].Sublist order

theorem Precedes.append {x y : UInt8 × RouteId} (h : Precedes order x y) (r : RouteId) :
    Precedes (order ++ [r]) x y :=
  h.imp_right fun ⟨hp, hage⟩ => ⟨hp, hage.trans (List.sublist_append_left order [r])⟩

theorem Precedes.filter {x y : UInt8 × RouteId} (h : Precedes order x y) {keep : RouteId → Bool}
    (hx : keep x.2 = true) (hy : keep y.2 = true) : Precedes (order.filter keep) x y := by
  refine h.imp_right fun ⟨hp, hage⟩ => ⟨hp, ?_⟩
  have hkept := hage.filter keep
  rwa [List.filter_cons_of_pos hx, List.filter_cons_of_pos hy, List.filter_nil] at hkept

/-- A list of routes, cut where a route of priority `p` belongs: what is in front of the
place has at most that priority, and what is behind it a greater one. -/
structure Parted (p : UInt8) (routes front back : List (UInt8 × RouteId)) : Prop where
  split : routes = front ++ back
  low : ∀ x ∈ front, x.1 ≤ p
  high : ∀ x ∈ back, p < x.1

/-- A list that goes by priority can be cut so for every priority. -/
theorem exists_parted (p : UInt8) (h : routes.Pairwise fun x y => x.1 ≤ y.1) :
    ∃ front back, Parted p routes front back := by
  induction routes with
  | nil => exact ⟨[], [], rfl, by simp, by simp⟩
  | cons x routes ih =>
    obtain ⟨hx, hroutes⟩ := List.pairwise_cons.1 h
    by_cases hp : x.1 ≤ p
    · obtain ⟨front, back, hsplit, hlow, hhigh⟩ := ih hroutes
      exact ⟨x :: front, back, by rw [hsplit, List.cons_append],
        List.forall_mem_cons.2 ⟨hp, hlow⟩, hhigh⟩
    · have hlt : p < x.1 := UInt8.not_le.1 hp
      exact ⟨[], x :: routes, rfl, by simp,
        List.forall_mem_cons.2 ⟨hlt, fun y hy => UInt8.lt_of_lt_of_le hlt (hx y hy)⟩⟩

/-- Going through the list finds the place at which it can be cut, so it finds the same
place as any other search. -/
theorem Parted.insertRoute_eq {front back : List (UInt8 × RouteId)}
    (h : Parted p routes front back) : insertRoute p r routes = front ++ (p, r) :: back := by
  obtain ⟨rfl, hlow, hhigh⟩ := h
  induction front with
  | nil =>
    cases back with
    | nil => rfl
    | cons y back =>
      have hlt : p < y.1 := hhigh y List.mem_cons_self
      rw [List.nil_append, insertRoute, if_neg (UInt8.not_le.2 hlt), List.nil_append]
  | cons x front ih =>
    obtain ⟨hx, hfront⟩ := List.forall_mem_cons.1 hlow
    rw [List.cons_append, insertRoute, if_pos hx, ih hfront, List.cons_append]

/-- A route that stands right to what is in front of its place and to what is behind it
leaves the list in order. -/
theorem Parted.pairwise {R : UInt8 × RouteId → UInt8 × RouteId → Prop}
    {front back : List (UInt8 × RouteId)} (h : Parted p routes front back)
    (hroutes : routes.Pairwise R) (hfront : ∀ x ∈ routes, x.1 ≤ p → R x (p, r))
    (hback : ∀ y ∈ routes, p < y.1 → R (p, r) y) : (insertRoute p r routes).Pairwise R := by
  rw [h.insertRoute_eq]
  obtain ⟨rfl, hlow, hhigh⟩ := h
  obtain ⟨hf, hb, hcross⟩ := List.pairwise_append.1 hroutes
  refine List.pairwise_append.2 ⟨hf, List.pairwise_cons.2 ⟨fun y hy => ?_, hb⟩, fun x hx => ?_⟩
  · exact hback y (List.mem_append_right _ hy) (hhigh y hy)
  · exact List.forall_mem_cons.2 ⟨hfront x (List.mem_append_left _ hx) (hlow x hx), hcross x hx⟩

/-- **The youngest route** finds its place behind all routes of its priority. -/
theorem pairwise_insertRoute (h : routes.Pairwise (Precedes order))
    (hold : ∀ x ∈ routes, x.2 ∈ order) :
    (insertRoute p r routes).Pairwise (Precedes (order ++ [r])) := by
  have hpriority : routes.Pairwise fun x y => x.1 ≤ y.1 :=
    h.imp fun hxy => hxy.elim UInt8.le_of_lt fun htie => UInt8.le_of_eq htie.1
  obtain ⟨front, back, hparted⟩ := exists_parted p hpriority
  refine hparted.pairwise (h.imp fun hxy => hxy.append r) (fun x hx hle => ?_) fun y _ => .inl
  -- The new route comes after `x`: it has a greater priority or is younger.
  rcases UInt8.lt_or_eq_of_le hle with hlt | heq
  · exact .inl hlt
  · have hage : [x.2].Sublist order := List.singleton_sublist.2 (hold x hx)
    exact .inr ⟨heq, hage.append (List.Sublist.refl [r])⟩

end Interlocking.Segment
