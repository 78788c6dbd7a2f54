/-
What selecting routes looks at, and what it leaves open.

A route is offered for two kinds of reasons: it suits the loco and its train
(`Suits`), and everything that it claims can be had at this moment. The second
is judged without taking anything, segment by segment and accessory by
accessory, and agrees with what taking asks for (`offers_iff`).

The routes that are offered are put into an order by sorting, which keeps the
order of routes that the approach does not tell apart (`pairwise_order`). Under
the random approach they are shuffled, in whatever way (`Shuffling`), so all that
can be said is that they are the same ones (`order_perm`).
-/
import Interlocking.Layout.Selection
import Interlocking.Proofs.Layout.Reservation
import Mathlib.Data.List.Pairwise

set_option autoImplicit false

namespace Interlocking

/-! ## Sorting -/

section Sorting

variable {α : Type} {key : α → Nat} {xs : List α} {x y : α}

/-- Of two elements of a list without repetition one comes first, and only one. -/
theorem not_sublist_swap (hxs : xs.Nodup) (h : [x, y].Sublist xs) : ¬ [y, x].Sublist xs := by
  induction xs with
  | nil => cases h
  | cons a xs ih =>
    obtain ⟨ha, hnodup⟩ := List.nodup_cons.1 hxs
    intro hswap
    -- The head is neither, or it is one of them and comes a second time.
    cases h with
    | cons _ h =>
      cases hswap with
      | cons _ hswap => exact ih hnodup h hswap
      | cons_cons _ hswap => exact ha (h.subset (by simp))
    | cons_cons _ h =>
      cases hswap with
      | cons _ hswap => exact ha (hswap.subset (by simp))
      | cons_cons _ hswap => exact ha (hswap.subset (by simp))

/-- Two elements of a list stand in it in one order or the other. -/
theorem sublist_or_swap (hx : x ∈ xs) (hy : y ∈ xs) (hne : x ≠ y) :
    [x, y].Sublist xs ∨ [y, x].Sublist xs := by
  have hpairs : xs.Pairwise fun x y => [x, y].Sublist xs ∨ [y, x].Sublist xs :=
    List.pairwise_iff_forall_sublist.2 fun h => .inl h
  have hsymm : Std.Symm fun x y => [x, y].Sublist xs ∨ [y, x].Sublist xs := ⟨fun _ _ h => h.symm⟩
  exact hpairs.forall hx hy hne

theorem sortByKey_perm (key : α → Nat) (xs : List α) : (sortByKey key xs).Perm xs :=
  List.mergeSort_perm xs _

theorem key_le_trans (key : α → Nat) (x y z : α) (hxy : decide (key x ≤ key y) = true)
    (hyz : decide (key y ≤ key z) = true) : decide (key x ≤ key z) = true := by
  rw [decide_eq_true_iff] at *
  omega

theorem key_le_total (key : α → Nat) (x y : α) :
    (decide (key x ≤ key y) || decide (key y ≤ key x)) = true := by
  rw [Bool.or_eq_true, decide_eq_true_iff, decide_eq_true_iff]
  omega

theorem pairwise_key_sortByKey (key : α → Nat) (xs : List α) :
    (sortByKey key xs).Pairwise fun x y => key x ≤ key y :=
  (List.pairwise_mergeSort (key_le_trans key) (key_le_total key) xs).imp decide_eq_true_iff.1

/-- Sorting puts smaller keys first and leaves equal keys in their order. -/
theorem pairwise_sortByKey {R : α → α → Prop} (hxs : xs.Nodup) (h : xs.Pairwise R) :
    (sortByKey key xs).Pairwise fun x y => key x < key y ∨ key x = key y ∧ R x y := by
  have hperm := sortByKey_perm key xs
  refine List.pairwise_iff_forall_sublist.2 fun {x y} hxy => ?_
  have hle : key x ≤ key y :=
    List.pairwise_iff_forall_sublist.1 (pairwise_key_sortByKey key xs) hxy
  rcases Nat.lt_or_eq_of_le hle with hlt | heq
  · exact .inl hlt
  · refine .inr ⟨heq, List.pairwise_iff_forall_sublist.1 h ?_⟩
    have hne : x ≠ y := by
      rintro rfl
      have htwice := hxy.nodup (hperm.nodup_iff.2 hxs)
      simp at htwice
    have hx : x ∈ xs := hperm.subset (hxy.subset (by simp))
    have hy : y ∈ xs := hperm.subset (hxy.subset (by simp))
    -- Sorting would have kept the other order, too.
    refine (sublist_or_swap hx hy hne).resolve_right fun hswap => ?_
    have hkept : [y, x].Sublist (sortByKey key xs) :=
      List.pair_sublist_mergeSort (key_le_trans key) (key_le_total key)
        (decide_eq_true_iff.2 (Nat.le_of_eq heq.symm)) hswap
    exact not_sublist_swap (hperm.nodup_iff.2 hxs) hxy hkept

/-- The elements with one key are left as they are. -/
theorem filter_sortByKey (key : α → Nat) (xs : List α) (k : Nat) :
    (sortByKey key xs).filter (fun x => decide (key x = k)) =
      xs.filter fun x => decide (key x = k) := by
  have hkey : ∀ {x}, x ∈ xs.filter (fun x => decide (key x = k)) → key x = k := fun hx =>
    decide_eq_true_iff.1 (List.mem_filter.1 hx).2
  have hsorted : (xs.filter fun x => decide (key x = k)).Pairwise
      fun x y => decide (key x ≤ key y) = true := by
    refine List.pairwise_of_forall_mem_list fun x hx y hy => ?_
    rw [hkey hx, hkey hy]
    exact decide_eq_true (Nat.le_refl k)
  -- They are a sorted part of the list, and sorting leaves a sorted part as it is.
  have hpart : (xs.filter fun x => decide (key x = k)).Sublist (sortByKey key xs) :=
    List.sublist_mergeSort (key_le_trans key) (key_le_total key) hsorted List.filter_sublist
  have hfiltered := hpart.filter fun x => decide (key x = k)
  rw [List.filter_filter] at hfiltered
  simp only [Bool.and_self] at hfiltered
  exact (hfiltered.eq_of_length ((sortByKey_perm key xs).filter _).length_eq.symm).symm

/-- Where the keys are sorted the ones that are zero come first. -/
theorem eq_zero_append_of_sorted (h : xs.Pairwise fun x y => key x ≤ key y) :
    xs = xs.filter (fun x => decide (key x = 0)) ++ xs.filter fun x => decide (key x ≠ 0) := by
  induction xs with
  | nil => rfl
  | cons x xs ih =>
    obtain ⟨hx, hxs⟩ := List.pairwise_cons.1 h
    by_cases hzero : key x = 0
    · simpa [hzero] using ih hxs
    · -- After a key that is not zero no key is.
      have hnone : xs.filter (fun x => decide (key x = 0)) = [] := by
        refine List.filter_eq_nil_iff.2 fun y hy hy0 => hzero ?_
        have hle := hx y hy
        rw [decide_eq_true_iff] at hy0
        omega
      have hall : xs.filter (fun x => decide (key x ≠ 0)) = xs := by
        have hrest := ih hxs
        rw [hnone, List.nil_append] at hrest
        exact hrest.symm
      rw [List.filter_cons_of_neg (by simpa using hzero), hnone,
        List.filter_cons_of_pos (by simpa using hzero), hall, List.nil_append]

/-- **Sorting** begins with the elements whose key is zero, in the order that they had. -/
theorem sortByKey_eq_append (key : α → Nat) (xs : List α) :
    sortByKey key xs = xs.filter (fun x => decide (key x = 0)) ++
      (sortByKey key xs).filter fun x => decide (key x ≠ 0) := by
  have hsplit := eq_zero_append_of_sorted (pairwise_key_sortByKey key xs)
  rwa [filter_sortByKey] at hsplit

end Sorting

/-! ## The order of candidates -/

/-- What an approach goes by; it leaves the order alone where it has no key. -/
def Approach.key : Approach → Candidate → Nat
  | minTrackLength, c => c.length.toNat
  | longestUnused, c => c.lastUsed.toNat
  | _, _ => 0

theorem Approach.order_perm [Shuffling] (a : Approach) (cs : List Candidate) :
    (a.order cs).Perm cs := by
  cases a with
  | systemDefault | doNotCare => exact .refl cs
  | random => exact Shuffling.shuffle_perm cs
  | minTrackLength | longestUnused => exact sortByKey_perm _ cs

theorem Approach.pairwise_order [Shuffling] {a : Approach} {cs : List Candidate}
    {R : Candidate → Candidate → Prop} (ha : a ≠ .random) (hcs : cs.Nodup) (h : cs.Pairwise R) :
    (a.order cs).Pairwise fun x y => a.key x < a.key y ∨ a.key x = a.key y ∧ R x y := by
  cases a with
  | systemDefault | doNotCare => exact h.imp fun hxy => .inr ⟨rfl, hxy⟩
  | minTrackLength | longestUnused => exact pairwise_sortByKey hcs h
  | random => exact absurd rfl ha

namespace Layout

variable {L : Layout} {t : SegmentId} {l : LocoId} {turn : Bool} {c : RouteConfig} {g : Segment}
  {r : RouteId}

/-! ## What can be had -/

theorem segmentFree_iff : L.segmentFree l t = true ↔ L.Obtainable l (.segment t) := by
  rw [segmentFree, Obtainable, Option.any_eq_true]
  simp only [Segment.Obtainable, Bool.and_eq_true, Bool.not_eq_true', Lock.heldByOther_eq_false_iff]

theorem accessoryFree_iff {id : AccessoryId} :
    L.accessoryFree l id = true ↔ L.Obtainable l (.accessory id) ∧
      ∀ a, L.accessories.get? id = some a → L.station.supports a.config.protocol = true := by
  rw [accessoryFree, Obtainable]
  cases L.accessories.get? id with
  | none => simp
  | some a =>
    simp [Accessory.Obtainable, Lock.heldByOther_eq_false_iff]

/-- Whether the command station speaks the protocols of the accessories of a
route. -/
def Spoken (L : Layout) (c : RouteConfig) : Prop :=
  ∀ x ∈ c.accessories, ∀ a, L.accessories.get? x.1 = some a →
    L.station.supports a.config.protocol = true

theorem mem_accessories {id : AccessoryId} {output : Output} :
    (id, output) ∈ c.accessories ↔ .accessory id output ∈ c.items := by
  rw [RouteConfig.accessories, List.mem_filterMap]
  constructor
  · rintro ⟨item, hitem, h⟩
    cases item with
    | segment s => cases h
    | accessory id' output' =>
      cases h
      exact hitem
  · intro h
    exact ⟨_, h, rfl⟩

theorem mem_claims {x : Claim} :
    x ∈ c.claims ↔ (∃ item ∈ c.items, item.claim = x) ∨ x = .segment c.destination := by
  rw [RouteConfig.claims, List.mem_append, List.mem_map, List.mem_singleton]

theorem itemFree_iff {item : PathItem} :
    L.itemFree l item = true ↔ L.Obtainable l item.claim ∧
      ∀ id output, item = .accessory id output → ∀ a, L.accessories.get? id = some a →
        L.station.supports a.config.protocol = true := by
  cases item with
  | segment s =>
    rw [itemFree, segmentFree_iff, PathItem.claim]
    simp
  | accessory id output =>
    rw [itemFree, accessoryFree_iff, PathItem.claim]
    simp

/-- Judging each thing by itself comes to what taking all of them asks for. -/
theorem free_iff :
    (L.segmentFree l c.destination = true ∧ c.items.all (L.itemFree l) = true) ↔
      (∀ x ∈ c.claims, L.Obtainable l x) ∧ L.Spoken c := by
  rw [segmentFree_iff, List.all_eq_true]
  constructor
  · rintro ⟨hdestination, hitems⟩
    refine ⟨fun x hx => ?_, fun x hx => ?_⟩
    · rcases mem_claims.1 hx with ⟨item, hitem, rfl⟩ | rfl
      · exact (itemFree_iff.1 (hitems item hitem)).1
      · exact hdestination
    · exact (itemFree_iff.1 (hitems _ (mem_accessories.1 hx))).2 x.1 x.2 rfl
  · rintro ⟨hclaims, hspoken⟩
    refine ⟨hclaims _ (mem_claims.2 (.inr rfl)), fun item hitem => itemFree_iff.2 ⟨?_, ?_⟩⟩
    · exact hclaims _ (mem_claims.2 (.inl ⟨item, hitem, rfl⟩))
    · rintro id output rfl
      exact hspoken (id, output) (mem_accessories.2 hitem)

/-! ## What suits a loco -/

/-- Everything that a route offered to a loco has to fulfil apart from being
available: it leaves the segment, the way the loco faces or any way if it may
turn; the station speaks the protocols of its accessories; and the train is of
the right length and kind. A train of length zero has no known length, and a
loco that is not registered has such a train, and no push-pull train. -/
structure Suits (L : Layout) (t : SegmentId) (l : LocoId) (turn : Bool) (c : RouteConfig) :
    Prop where
  origin : c.origin = t
  departure : turn = true ∨ ∃ g, L.segments.get? t = some g ∧ c.departure = g.orientation
  spoken : L.Spoken c
  length : ∀ x, L.locos.get? l = some x → x.length = 0 ∨
    (c.minTrainLength = 0 ∨ c.minTrainLength ≤ x.length) ∧
    (c.maxTrainLength = 0 ∨ x.length ≤ c.maxTrainLength)
  pushPullOnly : c.trains = .only → ∃ x, L.locos.get? l = some x ∧ x.pushPull = true
  noPushPull : c.trains = .no → ∀ x, L.locos.get? l = some x → x.pushPull = false

theorem fitsLength_iff :
    c.fitsLength (L.train l).1 = true ↔ ∀ x, L.locos.get? l = some x → x.length = 0 ∨
      (c.minTrainLength = 0 ∨ c.minTrainLength ≤ x.length) ∧
      (c.maxTrainLength = 0 ∨ x.length ≤ c.maxTrainLength) := by
  rw [train, RouteConfig.fitsLength]
  cases L.locos.get? l <;> simp

theorem accepts_iff :
    c.trains.accepts (L.train l).2 = true ↔
      (c.trains = .only → ∃ x, L.locos.get? l = some x ∧ x.pushPull = true) ∧
      (c.trains = .no → ∀ x, L.locos.get? l = some x → x.pushPull = false) := by
  rw [train]
  cases L.locos.get? l <;> cases c.trains <;> simp [TrainFilter.accepts]

/-- **A route is offered** if it suits the loco and can be had. -/
theorem offers_iff (hg : L.segments.get? t = some g) (hid : g.id = t) :
    L.offers g l turn c = true ↔ L.Suits t l turn c ∧ ∀ x ∈ c.claims, L.Obtainable l x := by
  have hdeparture : (turn = true ∨ ∃ g', L.segments.get? t = some g' ∧ c.departure = g'.orientation)
      ↔ c.departure = g.orientation ∨ turn = true := by
    simp [hg, or_comm]
  simp only [offers, Bool.and_eq_true, Bool.or_eq_true, decide_eq_true_iff, and_assoc, hid]
  constructor
  · rintro ⟨horigin, hturn, hdestination, hitems, hlength, htrains⟩
    obtain ⟨hclaims, hspoken⟩ := free_iff.1 ⟨hdestination, hitems⟩
    obtain ⟨honly, hno⟩ := accepts_iff.1 htrains
    exact ⟨⟨horigin, hdeparture.2 hturn, hspoken, fitsLength_iff.1 hlength, honly, hno⟩, hclaims⟩
  · rintro ⟨hsuits, hclaims⟩
    obtain ⟨hdestination, hitems⟩ := free_iff.2 ⟨hclaims, hsuits.spoken⟩
    exact ⟨hsuits.origin, hdeparture.1 hsuits.departure, hdestination, hitems,
      fitsLength_iff.2 hsuits.length, accepts_iff.2 ⟨hsuits.pushPullOnly, hsuits.noPushPull⟩⟩

/-- What is offered can be had, whatever the segment is called. -/
theorem obtainable_of_offers (h : L.offers g l turn c = true) :
    ∀ x ∈ c.claims, L.Obtainable l x := by
  simp only [offers, Bool.and_eq_true] at h
  exact (free_iff.1 ⟨h.1.1.1.2, h.1.1.2⟩).1

/-! ## What is listed -/

/-- A candidate is a registered route that is offered. -/
theorem candidate?_eq_some_iff {x : Candidate} :
    L.candidate? g l turn r = some x ↔ ∃ route destination, L.routes.get? r = some route ∧
      L.segments.get? route.config.destination = some destination ∧
      L.offers g l turn route.config = true ∧
      x = { route := r, length := destination.length, lastUsed := route.lastUsed } := by
  rw [candidate?]
  simp only [bind, Option.bind_eq_some_iff, Option.ite_none_right_eq_some, Option.some.injEq]
  constructor
  · rintro ⟨route, hr, destination, hd, hoffers, rfl⟩
    exact ⟨route, destination, hr, hd, hoffers, rfl⟩
  · rintro ⟨route, destination, hr, hd, hoffers, rfl⟩
    exact ⟨route, hr, destination, hd, hoffers, rfl⟩

/-- **What is listed** is what the segment notes and the loco is offered. -/
theorem mem_selectRoutes [Shuffling] {asked : Approach} :
    r ∈ L.selectRoutes t l turn asked ↔ ∃ g route, L.segments.get? t = some g ∧ r ∈ g.routeIds ∧
      L.routes.get? r = some route ∧ L.offers g l turn route.config = true := by
  rw [selectRoutes]
  cases hg : L.segments.get? t with
  | none => simp
  | some g =>
    dsimp only
    rw [List.mem_map]
    simp only [((L.approachFor g asked).order_perm _).mem_iff, List.mem_filterMap,
      candidate?_eq_some_iff]
    constructor
    · rintro ⟨x, ⟨r', hnoted, route, destination, hr, -, hoffers, rfl⟩, rfl⟩
      exact ⟨g, route, rfl, hnoted, hr, hoffers⟩
    · rintro ⟨g', route, hg', hnoted, hr, hoffers⟩
      obtain rfl := Option.some.inj hg'
      -- The destination of an offered route is registered.
      have hclaim : Claim.segment route.config.destination ∈ route.config.claims :=
        mem_claims.2 (.inr rfl)
      obtain ⟨destination, hd, -⟩ := obtainable_of_offers hoffers _ hclaim
      exact ⟨_, ⟨r, hnoted, route, destination, hr, hd, hoffers, rfl⟩, rfl⟩

end Layout
end Interlocking
