/-
The order in which the routes of a segment are looked at.

The list of a segment is kept by calls that note and forget routes. Here it is compared
with the calls themselves: a route is registered if some call has noted it and no later
one has forgotten it, and the call that registers it is the one that noted it while it
was not registered (`RegisteredAt`). A route that is noted again in between stays where
it is, with the priority that it has.

Everything follows from what one more call does to the registered routes
(`registeredAt_concat_iff`) and to the list (`ListsByAge.call`). A newly registered
route is younger than all others, so its place is behind all routes that do not have a
greater priority number. Such a place can be looked for in many ways, and all of them
find the same one, but only because the list goes by priority (`Parted`).
-/
import Interlocking.Proofs.Segment.Routes
import Mathlib.Data.List.Induction

set_option autoImplicit false

namespace Interlocking.Segment

variable {calls : List Call} {c d : Call} {m n : Nat} {p q : UInt8} {r s : RouteId}
  {g : Segment} {routes : List (UInt8 × RouteId)}

/-! ## The registered routes -/

/-- The route is registered after the calls: one of them notes it, and none forgets it
after that. -/
def Registered (calls : List Call) (r : RouteId) : Prop :=
  ∃ (n : Nat) (p : UInt8), calls[n]? = some (.addRoute r p) ∧
    ∀ m, n < m → calls[m]? ≠ some (.removeRoute r)

/-- The call at position `n` registers the route with priority `p`: it notes the route
while it is not registered, and none forgets it after that. -/
structure RegisteredAt (calls : List Call) (n : Nat) (p : UInt8) (r : RouteId) : Prop where
  notes : calls[n]? = some (.addRoute r p)
  new : ¬ Registered (calls.take n) r
  stays : ∀ m, n < m → calls[m]? ≠ some (.removeRoute r)

theorem RegisteredAt.lt (h : RegisteredAt calls n p r) : n < calls.length :=
  (List.getElem?_eq_some_iff.1 h.notes).1

theorem RegisteredAt.registered (h : RegisteredAt calls n p r) : Registered calls r :=
  ⟨n, p, h.notes, h.stays⟩

/-- A route that is noted before position `n`, and not forgotten, is not new there. -/
theorem RegisteredAt.le (h : RegisteredAt calls n p r) (h' : RegisteredAt calls m q r) :
    n ≤ m := by
  by_contra hlt
  refine h.new ⟨m, q, ?_, fun k hk => ?_⟩
  · rw [List.getElem?_take_of_lt (by omega)]
    exact h'.notes
  · rw [List.getElem?_take]
    split
    · exact h'.stays k hk
    · exact nofun

/-- A registered route is registered by one call only. -/
theorem RegisteredAt.unique (h : RegisteredAt calls n p r) (h' : RegisteredAt calls m q r) :
    n = m ∧ p = q := by
  obtain rfl : n = m := Nat.le_antisymm (h.le h') (h'.le h)
  have heq : Call.addRoute r p = Call.addRoute r q :=
    Option.some.inj (h.notes.symm.trans h'.notes)
  cases heq
  exact ⟨rfl, rfl⟩

/-! ## One more call -/

theorem getElem?_concat_eq_some_iff :
    (calls ++ [c])[n]? = some d ↔ calls[n]? = some d ∨ n = calls.length ∧ c = d := by
  rcases Nat.lt_trichotomy n calls.length with hlt | rfl | hgt
  · rw [List.getElem?_append_left hlt]
    refine (or_iff_left ?_).symm
    omega
  · simp
  · have hout : (calls ++ [c])[n]? = none := by
      apply List.getElem?_eq_none
      rw [List.length_append, List.length_singleton]
      omega
    rw [hout, List.getElem?_eq_none (Nat.le_of_lt hgt)]
    simp [Nat.ne_of_gt hgt]

/-- The last call comes after every other. -/
theorem stays_concat_iff (hn : n < calls.length) :
    (∀ m, n < m → (calls ++ [c])[m]? ≠ some d) ↔
      (∀ m, n < m → calls[m]? ≠ some d) ∧ c ≠ d := by
  constructor
  · intro h
    refine ⟨fun m hm hd => ?_, fun hd => ?_⟩
    · exact h m hm (getElem?_concat_eq_some_iff.2 (.inl hd))
    · exact h calls.length hn (getElem?_concat_eq_some_iff.2 (.inr ⟨rfl, hd⟩))
  · rintro ⟨hbefore, hlast⟩ m hm hd
    rcases getElem?_concat_eq_some_iff.1 hd with hd | ⟨-, hd⟩
    · exact hbefore m hm hd
    · exact hlast hd

/-- Nothing comes after the last call. -/
theorem stays_last : ∀ m, calls.length < m → (calls ++ [c])[m]? ≠ some d := by
  intro m hm hd
  have hlt := (List.getElem?_eq_some_iff.1 hd).1
  rw [List.length_append, List.length_singleton] at hlt
  omega

theorem registered_concat_iff : Registered (calls ++ [c]) r ↔
    (∃ p, c = .addRoute r p) ∨ Registered calls r ∧ c ≠ .removeRoute r := by
  constructor
  · rintro ⟨n, p, hnotes, hstays⟩
    rcases getElem?_concat_eq_some_iff.1 hnotes with hn | ⟨-, hc⟩
    · have hlt := (List.getElem?_eq_some_iff.1 hn).1
      obtain ⟨hbefore, hlast⟩ := (stays_concat_iff hlt).1 hstays
      exact .inr ⟨⟨n, p, hn, hbefore⟩, hlast⟩
    · exact .inl ⟨p, hc⟩
  · rintro (⟨p, rfl⟩ | ⟨⟨n, p, hn, hbefore⟩, hlast⟩)
    · exact ⟨calls.length, p, getElem?_concat_eq_some_iff.2 (.inr ⟨rfl, rfl⟩), stays_last⟩
    · have hlt := (List.getElem?_eq_some_iff.1 hn).1
      exact ⟨n, p, getElem?_concat_eq_some_iff.2 (.inl hn),
        (stays_concat_iff hlt).2 ⟨hbefore, hlast⟩⟩

/-- **One more call** registers the route that it notes if that is new, and keeps the
others unless it forgets them. -/
theorem registeredAt_concat_iff : RegisteredAt (calls ++ [c]) n p r ↔
    RegisteredAt calls n p r ∧ c ≠ .removeRoute r ∨
      n = calls.length ∧ c = .addRoute r p ∧ ¬ Registered calls r := by
  constructor
  · rintro ⟨hnotes, hnew, hstays⟩
    rcases getElem?_concat_eq_some_iff.1 hnotes with hn | ⟨rfl, hc⟩
    · have hlt := (List.getElem?_eq_some_iff.1 hn).1
      obtain ⟨hbefore, hlast⟩ := (stays_concat_iff hlt).1 hstays
      rw [List.take_append_of_le_length (Nat.le_of_lt hlt)] at hnew
      exact .inl ⟨⟨hn, hnew, hbefore⟩, hlast⟩
    · rw [List.take_left] at hnew
      exact .inr ⟨rfl, hc, hnew⟩
  · rintro (⟨h, hlast⟩ | ⟨rfl, hc, hnew⟩)
    · refine ⟨getElem?_concat_eq_some_iff.2 (.inl h.notes), ?_,
        (stays_concat_iff h.lt).2 ⟨h.stays, hlast⟩⟩
      rw [List.take_append_of_le_length (Nat.le_of_lt h.lt)]
      exact h.new
    · refine ⟨getElem?_concat_eq_some_iff.2 (.inr ⟨rfl, hc⟩), ?_, stays_last⟩
      rw [List.take_left]
      exact hnew

theorem RegisteredAt.concat (h : RegisteredAt calls n p r) (hc : c ≠ .removeRoute r) :
    RegisteredAt (calls ++ [c]) n p r :=
  registeredAt_concat_iff.2 (.inl ⟨h, hc⟩)

theorem registeredAt_last (hnew : ¬ Registered calls r) :
    RegisteredAt (calls ++ [.addRoute r p]) calls.length p r :=
  registeredAt_concat_iff.2 (.inr ⟨rfl, rfl, hnew⟩)

/-- A registered route has been registered by some call. -/
theorem registered_iff_exists : Registered calls r ↔ ∃ n p, RegisteredAt calls n p r := by
  refine ⟨fun h => ?_, fun ⟨n, p, h⟩ => h.registered⟩
  induction calls using List.reverseRecOn with
  | nil =>
    obtain ⟨n, p, hnotes, -⟩ := h
    cases hnotes
  | append_singleton calls c ih =>
    by_cases hold : Registered calls r ∧ c ≠ .removeRoute r
    · obtain ⟨n, p, hn⟩ := ih hold.1
      exact ⟨n, p, hn.concat hold.2⟩
    · obtain ⟨p, rfl⟩ := (registered_concat_iff.1 h).resolve_right hold
      have hnew : ¬ Registered calls r := fun hr => hold ⟨hr, nofun⟩
      exact ⟨calls.length, p, registeredAt_last hnew⟩

/-- A call that neither notes a new route nor forgets one changes nothing. -/
theorem registeredAt_concat_of_idle (hnotes : ∀ r p, c = .addRoute r p → Registered calls r)
    (hforgets : ∀ r, c ≠ .removeRoute r) :
    RegisteredAt (calls ++ [c]) n p r ↔ RegisteredAt calls n p r := by
  rw [registeredAt_concat_iff]
  constructor
  · rintro (⟨h, -⟩ | ⟨-, hc, hnew⟩)
    · exact h
    · exact absurd (hnotes r p hc) hnew
  · exact fun h => .inl ⟨h, hforgets r⟩

/-! ## The list -/

/-- Which of two registered routes is looked at first: the one with the smaller priority
number, or, if they have the same, the one that was registered by the earlier call. -/
def Ahead (calls : List Call) (x y : UInt8 × RouteId) : Prop :=
  ∃ m n, RegisteredAt calls m x.1 x.2 ∧ RegisteredAt calls n y.1 y.2 ∧
    (x.1 < y.1 ∨ x.1 = y.1 ∧ m < n)

theorem Ahead.priority_le {x y : UInt8 × RouteId} (h : Ahead calls x y) : x.1 ≤ y.1 := by
  obtain ⟨_, _, -, -, hlt | ⟨heq, -⟩⟩ := h
  · exact UInt8.le_of_lt hlt
  · exact UInt8.le_of_eq heq

theorem Ahead.ne {x y : UInt8 × RouteId} (h : Ahead calls x y) : x.2 ≠ y.2 := by
  intro heq
  obtain ⟨m, n, hm, hn, horder⟩ := h
  rw [← heq] at hn
  obtain ⟨rfl, hp⟩ := hm.unique hn
  rcases horder with hlt | ⟨-, hlt⟩
  · rw [hp] at hlt
    exact UInt8.lt_irrefl _ hlt
  · exact Nat.lt_irrefl _ hlt

theorem Ahead.concat {x y : UInt8 × RouteId} (h : Ahead calls x y) (hx : c ≠ .removeRoute x.2)
    (hy : c ≠ .removeRoute y.2) : Ahead (calls ++ [c]) x y := by
  obtain ⟨m, n, hm, hn, horder⟩ := h
  exact ⟨m, n, hm.concat hx, hn.concat hy, horder⟩

/-- The list has the registered routes with the priorities with which they were
registered, in the order in which they are to be looked at. -/
structure ListsByAge (calls : List Call) (routes : List (UInt8 × RouteId)) : Prop where
  listed : ∀ p r, (p, r) ∈ routes ↔ ∃ n, RegisteredAt calls n p r
  sorted : routes.Pairwise (Ahead calls)

theorem ListsByAge.mem_ids (h : ListsByAge calls routes) :
    r ∈ routes.map Prod.snd ↔ Registered calls r := by
  rw [registered_iff_exists, List.mem_map]
  constructor
  · rintro ⟨⟨p, r⟩, hmem, rfl⟩
    obtain ⟨n, hn⟩ := (h.listed p r).1 hmem
    exact ⟨n, p, hn⟩
  · rintro ⟨n, p, hn⟩
    exact ⟨(p, r), (h.listed p r).2 ⟨n, hn⟩, rfl⟩

theorem ListsByAge.exists_parted (h : ListsByAge calls routes) (p : UInt8) :
    ∃ front back, Parted p routes front back :=
  Segment.exists_parted p (h.sorted.imp Ahead.priority_le)

theorem ListsByAge.idle (h : ListsByAge calls routes)
    (hnotes : ∀ r p, c = .addRoute r p → Registered calls r)
    (hforgets : ∀ r, c ≠ .removeRoute r) : ListsByAge (calls ++ [c]) routes where
  listed p r := by
    rw [h.listed]
    exact exists_congr fun n => (registeredAt_concat_of_idle hnotes hforgets).symm
  sorted := h.sorted.imp fun {x y} hxy => hxy.concat (hforgets x.2) (hforgets y.2)

/-- A newly registered route is younger than all that are listed. -/
theorem ListsByAge.addRoute (h : ListsByAge calls routes) (hnew : ¬ Registered calls r) :
    ListsByAge (calls ++ [.addRoute r p]) (insertRoute p r routes) where
  listed q s := by
    rw [mem_insertRoute, h.listed]
    constructor
    · rintro (heq | ⟨n, hn⟩)
      · cases heq
        exact ⟨calls.length, registeredAt_last hnew⟩
      · exact ⟨n, hn.concat nofun⟩
    · rintro ⟨n, hn⟩
      rcases registeredAt_concat_iff.1 hn with ⟨hn, -⟩ | ⟨-, heq, -⟩
      · exact .inr ⟨n, hn⟩
      · cases heq
        exact .inl rfl
  sorted := by
    have hlast : RegisteredAt (calls ++ [.addRoute r p]) calls.length p r :=
      registeredAt_last hnew
    have hkept : ∀ x ∈ routes, ∃ n, RegisteredAt (calls ++ [.addRoute r p]) n x.1 x.2 ∧
        n < calls.length := by
      intro x hx
      obtain ⟨n, hn⟩ := (h.listed x.1 x.2).1 hx
      exact ⟨n, hn.concat nofun, hn.lt⟩
    obtain ⟨front, back, hparted⟩ := h.exists_parted p
    refine hparted.pairwise (h.sorted.imp fun hxy => hxy.concat nofun nofun) ?_ ?_
    · intro x hx hle
      obtain ⟨n, hn, hlt⟩ := hkept x hx
      exact ⟨n, _, hn, hlast, (UInt8.lt_or_eq_of_le hle).imp_right fun heq => ⟨heq, hlt⟩⟩
    · intro y hy hgt
      obtain ⟨n, hn, -⟩ := hkept y hy
      exact ⟨_, n, hlast, hn, .inl hgt⟩

/-- The routes that stay keep their order. -/
theorem ListsByAge.removeRoute (h : ListsByAge calls routes) (r : RouteId) :
    ListsByAge (calls ++ [.removeRoute r]) (routes.filter fun x => decide (x.2 ≠ r)) where
  listed q s := by
    rw [List.mem_filter, h.listed, decide_eq_true_iff]
    constructor
    · rintro ⟨⟨n, hn⟩, hne⟩
      exact ⟨n, hn.concat fun heq => hne (Call.removeRoute.inj heq).symm⟩
    · rintro ⟨n, hn⟩
      rcases registeredAt_concat_iff.1 hn with ⟨hn, hother⟩ | ⟨-, heq, -⟩
      · exact ⟨⟨n, hn⟩, fun heq => hother (congrArg _ heq.symm)⟩
      · cases heq
  sorted := by
    have hother : ∀ x ∈ routes.filter fun x => decide (x.2 ≠ r),
        Call.removeRoute r ≠ Call.removeRoute x.2 := by
      intro x hx heq
      have hne := of_decide_eq_true (List.mem_filter.1 hx).2
      exact hne (Call.removeRoute.inj heq).symm
    exact (h.sorted.filter _).imp_of_mem fun hx hy hxy => hxy.concat (hother _ hx) (hother _ hy)

/-- **One call** keeps the list in step with the calls. -/
theorem ListsByAge.call (h : ListsByAge calls g.routes) (c : Call) :
    ListsByAge (calls ++ [c]) (g.call c).segment.routes := by
  by_cases hc : c.Lists
  · cases hc with
    | addRoute r p =>
      have hcall : (g.call (.addRoute r p)).segment = (g.addRoute r p).2 := rfl
      by_cases hr : r ∈ g.routeIds
      · -- The route is registered already, with whatever priority.
        rw [hcall, Segment.addRoute, if_pos hr]
        apply h.idle
        · intro r' p' heq
          cases heq
          exact h.mem_ids.1 hr
        · intro r' heq
          cases heq
      · rw [hcall, routes_addRoute hr]
        exact h.addRoute fun hreg => hr (h.mem_ids.2 hreg)
    | removeRoute r => exact h.removeRoute r
  · rw [(g.call_keeps hc).2]
    apply h.idle
    · intro r p heq
      exact absurd (heq ▸ .addRoute r p) hc
    · intro r heq
      exact absurd (heq ▸ .removeRoute r) hc

/-- **Every run** does, on the segment of a configuration. -/
theorem listsByAge_run (cfg : SegmentConfig) (calls : List Call) :
    ListsByAge calls ((ofConfig cfg).run calls).routes := by
  induction calls using List.reverseRecOn with
  | nil =>
    refine ⟨fun p r => iff_of_false List.not_mem_nil ?_, .nil⟩
    rintro ⟨n, hn⟩
    exact absurd hn.lt (Nat.not_lt_zero n)
  | append_singleton calls c ih =>
    rw [run_append, run_cons, run_nil]
    exact ih.call c

/-- **The discovery order.** On the segment of a configuration, after any run of calls:
the listed routes are the registered ones, each of them once. They go by ascending
priority, and within a priority by the calls that registered them. Noting a route that is
registered is refused and changes nothing. Noting any other puts it at the one place at
which the list can be cut for its priority, however that place is looked for. -/
theorem routes_in_discovery_order (cfg : SegmentConfig) (calls : List Call) :
    let g := (ofConfig cfg).run calls
    (∀ r, r ∈ g.routeIds ↔ Registered calls r) ∧ g.routeIds.Nodup ∧
    (∀ p r, (p, r) ∈ g.routes ↔ ∃ n, RegisteredAt calls n p r) ∧
    (g.routeIds.Pairwise fun r s => ∃ p q, Ahead calls (p, r) (q, s)) ∧
    (∀ r p, Registered calls r → g.call (.addRoute r p) = silently false g) ∧
    ∀ r p, ¬ Registered calls r → (∃ front back, Parted p g.routes front back) ∧
      ∀ front back, Parted p g.routes front back →
        g.call (.addRoute r p) = silently true { g with routes := front ++ (p, r) :: back } := by
  intro g
  have h : ListsByAge calls g.routes := listsByAge_run cfg calls
  have hmem : ∀ r, r ∈ g.routeIds ↔ Registered calls r := fun r => h.mem_ids
  refine ⟨hmem, List.pairwise_map.2 (h.sorted.imp Ahead.ne), h.listed, ?_, ?_, ?_⟩
  · exact List.pairwise_map.2 (h.sorted.imp fun {x y} hxy => ⟨x.1, y.1, hxy⟩)
  · intro r p hreg
    simp only [call, Segment.addRoute, if_pos ((hmem r).2 hreg)]
  · intro r p hnew
    refine ⟨h.exists_parted p, fun front back hparted => ?_⟩
    have hout : r ∉ g.routeIds := fun hr => hnew ((hmem r).1 hr)
    simp only [call, Segment.addRoute, if_neg hout, hparted.insertRoute_eq]

/-- A route that is noted again keeps its priority and its place; one that was forgotten
in between is the youngest. -/
example :
    let g := (ofConfig { id := ⟨1⟩, name := "T1", length := 1 }).run
      [.addRoute ⟨1⟩ 5, .addRoute ⟨2⟩ 1, .addRoute ⟨3⟩ 5, .addRoute ⟨3⟩ 0]
    g.routeIds = [⟨2⟩, ⟨1⟩, ⟨3⟩] ∧
      (g.run [.removeRoute ⟨1⟩, .addRoute ⟨1⟩ 5]).routeIds = [⟨2⟩, ⟨3⟩, ⟨1⟩] := by
  decide

end Interlocking.Segment
