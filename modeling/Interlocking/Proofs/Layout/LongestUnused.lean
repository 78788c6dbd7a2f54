/-
The order of routes under the approach that goes by use.

A layout remembers the uses of a route as a stamp, but what is promised of the order is
about what has happened: the routes that were not locked since they were added come
first, as the segment lists them, and then the others, the one first whose last locking
is the longest ago. So the history is asked for the positions at which a route was
added and locked (`Unused`, `UsedLast`).

What a step means for a route that is there afterwards is one of three things (`Fate`),
and from that it is shown step by step that the stamps say what has happened (`Dated`).
Loading is left out, because it brings stamps of another history, and so are histories
in which the count of uses comes to the end of its range.
-/
import Interlocking.Proofs.Layout.Refusal
import Interlocking.Proofs.Layout.Reselection
import Interlocking.Proofs.Layout.Stamps

set_option autoImplicit false

namespace Interlocking.Layout

variable {L M N : Layout} {r s : RouteId} {x y : Route} {steps : List Step} {next : Step} {n : Nat}

/-! ## What happens to a route -/

/-- Whether a step is loading. -/
def Step.isLoad : Step → Bool
  | @Step.load _ _ _ => true
  | _ => false

/-- Whether a step is an attempt to lock a route. -/
def Step.isLockRoute : Step → Bool
  | .call (.lockRoute _ _) => true
  | _ => false

/-- The step locks the route. -/
def Locks (r : RouteId) (L : Layout) (next : Step) : Prop :=
  ∃ l, next = .call (.lockRoute r l) ∧ (L.lockRoute r l).1 = true

/-- The step adds the route. -/
def Adds (r : RouteId) (L : Layout) (next : Step) : Prop :=
  ∃ c, c.id = r ∧ next = .call (.addRoute c) ∧ (L.addRoute c).1 = .ok ()

/-- The route was added and has not been locked since. -/
def Unused (L : Layout) (steps : List Step) (r : RouteId) : Prop :=
  ∃ k, L.At (Adds r) steps k ∧ ∀ n, k < n → ¬ L.At (Locks r) steps n

/-- The route was locked for the last time at a position, and was not added anew
since. -/
def UsedLast (L : Layout) (steps : List Step) (r : RouteId) (n : Nat) : Prop :=
  L.At (Locks r) steps n ∧ ∀ m, n < m → ¬ L.At (Locks r) steps m ∧ ¬ L.At (Adds r) steps m

theorem not_adds_of_locks (h : L.Locks r next) : ¬ L.Adds s next := by
  rintro ⟨c, -, hadd, -⟩
  obtain ⟨l, hlock, -⟩ := h
  rw [hadd] at hlock
  cases hlock

/-- A route that was used is not unused. -/
theorem UsedLast.not_unused (h : L.UsedLast steps r n) : ¬ L.Unused steps r := by
  obtain ⟨hlock, hnone⟩ := h
  rintro ⟨k, hadd, hunlocked⟩
  rcases Nat.lt_trichotomy k n with hlt | rfl | hgt
  · exact hunlocked n hlt hlock
  · obtain ⟨next, hnext, hadds⟩ := hadd
    obtain ⟨next', hnext', hlocks⟩ := hlock
    obtain rfl := Option.some.inj (hnext.symm.trans hnext')
    exact not_adds_of_locks hlocks hadds
  · exact (hnone k hgt).2 hadd

/-! ## One more step -/

theorem Unused.concat (h : L.Unused steps r) (hlock : ¬ (L.follow steps).Locks r next) :
    L.Unused (steps ++ [next]) r := by
  obtain ⟨k, hadd, hnone⟩ := h
  refine ⟨k, at_concat.2 (.inl hadd), fun n hn => ?_⟩
  rw [at_concat_of_not hlock]
  exact hnone n hn

theorem unused_concat_of_adds (h : (L.follow steps).Adds r next) : L.Unused (steps ++ [next]) r :=
  ⟨steps.length, at_concat_last h, fun _ => not_at_concat_of_lt⟩

theorem usedLast_concat_iff (hlock : ¬ (L.follow steps).Locks r next)
    (hadd : ¬ (L.follow steps).Adds r next) :
    L.UsedLast (steps ++ [next]) r n ↔ L.UsedLast steps r n := by
  simp only [UsedLast, at_concat_of_not hlock, at_concat_of_not hadd]

theorem usedLast_concat_of_locks (h : (L.follow steps).Locks r next) :
    L.UsedLast (steps ++ [next]) r n ↔ n = steps.length := by
  constructor
  · rintro ⟨hn, hnone⟩
    rcases at_concat.1 hn with hold | ⟨heq, -⟩
    · exact absurd (at_concat_last h) (hnone _ hold.lt).1
    · exact heq
  · rintro rfl
    exact ⟨at_concat_last h, fun m hm => ⟨not_at_concat_of_lt hm, not_at_concat_of_lt hm⟩⟩

/-- A route that was just added was never used. -/
theorem not_usedLast_concat_of_adds (h : (L.follow steps).Adds r next) :
    ¬ L.UsedLast (steps ++ [next]) r n := by
  rintro ⟨hn, hnone⟩
  rcases at_concat.1 hn with hold | ⟨-, hlock⟩
  · exact (hnone _ hold.lt).2 (at_concat_last h)
  · exact not_adds_of_locks hlock h

/-! ## What a step means for a route -/

theorem new_of_addRoute {c : RouteConfig} (h : (L.addRoute c).1 = .ok ()) :
    L.routes.get? c.id = none := (referenced_of_addRoute h).1

/-- A route that is there is not added. -/
theorem not_adds_of_registered (hr : L.routes.get? r = some x) : ¬ L.Adds r next := by
  rintro ⟨c, rfl, -, hok⟩
  cases (new_of_addRoute hok).symm.trans hr

/-- A route that was not there, and is there after it was to be added, was added. -/
theorem adds_of_get? {c : RouteConfig} (hnew : L.routes.get? c.id = none)
    (hr : (L.addRoute c).2.routes.get? c.id = some x) : L.Adds c.id (.call (.addRoute c)) := by
  refine ⟨c, rfl, rfl, ?_⟩
  cases hanswer : (L.addRoute c).1 with
  | ok _ => rfl
  | error e =>
    rw [addRoute_allOrNothing c e hanswer, hnew] at hr
    cases hr

theorem locks_call_iff {c : Call} :
    L.Locks r (.call c) ↔ (∃ l, c = .lockRoute r l) ∧ (L.call c).1 = .accepted true := by
  constructor
  · rintro ⟨l, hcall, hyes⟩
    obtain rfl := Step.call.inj hcall
    exact ⟨⟨l, rfl⟩, congrArg Answer.accepted hyes⟩
  · rintro ⟨⟨l, rfl⟩, hyes⟩
    exact ⟨l, rfl, Answer.accepted.inj hyes⟩

/-- What a step means for a route that is registered after it. -/
inductive Fate (L : Layout) (next : Step) (r : RouteId) (x : Route) : Prop where
  | kept (hr : L.routes.get? r = some x) (hlock : ¬ L.Locks r next)
  | added (hnew : L.routes.get? r = none) (hadd : L.Adds r next) (hx : x.lastUsed = 0)
  | used (hlock : L.Locks r next)

theorem fate_call (hL : L.Sound) {c : Call} (hr : (L.call c).2.routes.get? r = some x) :
    L.Fate (.call c) r x := by
  have hlocks : L.Locks r (.call c) ↔
      (∃ l, c = .lockRoute r l) ∧ (L.call c).1 = .accepted true := locks_call_iff
  have hadds : L.routes.get? r = none → (∃ config, c = .addRoute config ∧ config.id = r) →
      L.Adds r (.call c) := by
    rintro hnew ⟨config, rfl, rfl⟩
    exact adds_of_get? hnew hr
  have hregisters := registers_call hL c
  generalize L.call c = result at hregisters hr hlocks
  cases hregisters with
  | nothing hsame hidle =>
    rw [hsame.routes] at hr
    refine .kept hr fun hlock => ?_
    obtain ⟨⟨l, hc⟩, hyes⟩ := hlocks.1 hlock
    cases (hidle r l hc).symm.trans hyes
  | adds config hc hnew hroutes =>
    rw [hroutes, Registry.get?_insert] at hr
    split at hr
    next heq =>
      subst heq
      obtain rfl := Option.some.inj hr
      exact .added hnew (hadds hnew ⟨config, hc, rfl⟩) rfl
    next =>
      refine .kept hr fun hlock => ?_
      obtain ⟨⟨l, hc'⟩, -⟩ := hlocks.1 hlock
      cases hc.symm.trans hc'
  | deletes hc _ hroutes =>
    rw [hroutes, Registry.get?_erase] at hr
    split at hr
    · cases hr
    · refine .kept hr fun hlock => ?_
      obtain ⟨⟨l, hc'⟩, -⟩ := hlocks.1 hlock
      cases hc.symm.trans hc'
  | uses l hc _ hroutes =>
    rw [hroutes, Registry.get?_insert] at hr
    split at hr
    next heq =>
      subst heq
      exact .used (hlocks.2 ⟨⟨l, hc⟩, rfl⟩)
    next hne =>
      refine .kept hr fun hlock => ?_
      obtain ⟨⟨l', hc'⟩, -⟩ := hlocks.1 hlock
      exact hne (Call.lockRoute.inj (hc'.symm.trans hc)).1

theorem fate (hL : L.Sound) (hload : next.isLoad = false)
    (hr : (L.step next).routes.get? r = some x) : L.Fate next r x := by
  cases next with
  | load s => cases hload
  | call c => exact fate_call hL hr
  | elsewhere station notices =>
    refine .kept hr ?_
    rintro ⟨l, hcall, -⟩
    cases hcall

/-- The route that is locked gets the greatest stamp. -/
theorem StampsLast.of_locks (h : L.StampsLast next) (hlock : L.Locks r next)
    (hr : (L.step next).routes.get? r = some x) :
    x.lastUsed ≠ 0 ∧ ∀ s y, s ≠ r → (L.step next).routes.get? s = some y →
      y.lastUsed < x.lastUsed := by
  obtain ⟨l, rfl, hyes⟩ := hlock
  obtain ⟨x', hr', hused, hothers⟩ := h r l rfl hyes
  obtain rfl := Option.some.inj (hr'.symm.trans hr)
  exact ⟨hused, hothers⟩

/-- The count of uses goes forward by one at most, and only if a route is to be
locked. -/
theorem useCounter_step_le (hL : L.Sound) (hload : next.isLoad = false) :
    (L.step next).useCounter.toNat ≤ L.useCounter.toNat + if next.isLockRoute then 1 else 0 := by
  cases next with
  | load s => cases hload
  | elsewhere station notices => exact Nat.le_add_right _ _
  | call c =>
    show (L.call c).2.useCounter.toNat ≤ _
    have hregisters := registers_call hL c
    generalize L.call c = result at hregisters
    cases hregisters with
    | nothing hsame =>
      rw [hsame.useCounter]
      exact Nat.le_add_right _ _
    | adds _ _ _ _ hcount | deletes _ _ _ hcount =>
      rw [hcount]
      exact Nat.le_add_right _ _
    | uses _ hc _ _ hcount =>
      rw [hcount, hc, UInt64.toNat_add]
      exact Nat.mod_le _ _

/-! ## The stamps say what has happened -/

/-- The stamps after a history say which routes were used in it, and in which order. -/
structure Dated (L : Layout) (steps : List Step) : Prop where
  counted : (L.follow steps).StampsCounted
  few : (L.follow steps).useCounter.toNat ≤ steps.countP Step.isLockRoute
  unused : ∀ r x, (L.follow steps).routes.get? r = some x → x.lastUsed = 0 → L.Unused steps r
  used : ∀ r x, (L.follow steps).routes.get? r = some x → x.lastUsed ≠ 0 →
    ∃ n, L.UsedLast steps r n
  ordered : ∀ r x s y, (L.follow steps).routes.get? r = some x →
    (L.follow steps).routes.get? s = some y → ∀ m n, L.UsedLast steps r m →
      L.UsedLast steps s n → m < n → x.lastUsed < y.lastUsed

section Concat

variable (h : L.Dated steps) (hL : L.Reachable) (hload : next.isLoad = false)
  (hlast : (L.follow steps).StampsLast next)
include h hL hload hlast

omit hlast in
theorem Dated.used_concat (hr : ((L.follow steps).step next).routes.get? r = some x)
    (hx : x.lastUsed ≠ 0) : ∃ n, L.UsedLast (steps ++ [next]) r n := by
  cases fate (hL.follow steps).sound hload hr with
  | kept hold hlock =>
    obtain ⟨n, hn⟩ := h.used r x hold hx
    exact ⟨n, (usedLast_concat_iff hlock (not_adds_of_registered hold)).2 hn⟩
  | added _ _ hzero => exact absurd hzero hx
  | used hlock => exact ⟨_, (usedLast_concat_of_locks hlock).2 rfl⟩

theorem Dated.unused_concat (hr : ((L.follow steps).step next).routes.get? r = some x)
    (hx : x.lastUsed = 0) : L.Unused (steps ++ [next]) r := by
  cases fate (hL.follow steps).sound hload hr with
  | kept hold hlock => exact (h.unused r x hold hx).concat hlock
  | added _ hadd => exact unused_concat_of_adds hadd
  | used hlock => exact absurd hx (hlast.of_locks hlock hr).1

/-- A route that is locked is the last one that was used, and the others stay as they
were among themselves. -/
theorem Dated.ordered_concat (hr : ((L.follow steps).step next).routes.get? r = some x)
    (hs : ((L.follow steps).step next).routes.get? s = some y) {m : Nat}
    (hm : L.UsedLast (steps ++ [next]) r m) (hn : L.UsedLast (steps ++ [next]) s n) (hmn : m < n) :
    x.lastUsed < y.lastUsed := by
  have hM := (hL.follow steps).sound
  cases fate hM hload hs with
  | added _ hadd => exact absurd hn (not_usedLast_concat_of_adds hadd)
  | used hlock =>
    -- The other route was used before, so it is another one.
    have hne : r ≠ s := by
      rintro rfl
      rw [usedLast_concat_of_locks hlock] at hm hn
      omega
    exact (hlast.of_locks hlock hs).2 r x hne hr
  | kept holds hlocks =>
    rw [usedLast_concat_iff hlocks (not_adds_of_registered holds)] at hn
    cases fate hM hload hr with
    | added _ hadd => exact absurd hm (not_usedLast_concat_of_adds hadd)
    | used hlock =>
      -- Nothing was used later than at the last step.
      rw [usedLast_concat_of_locks hlock] at hm
      have hlt := hn.1.lt
      omega
    | kept holdr hlockr =>
      rw [usedLast_concat_iff hlockr (not_adds_of_registered holdr)] at hm
      exact h.ordered r x s y holdr holds m n hm hn hmn

end Concat

theorem Dated.concat (h : L.Dated steps) (hL : L.Reachable) (hload : next.isLoad = false)
    (hfew : (steps ++ [next]).countP Step.isLockRoute < 18446744073709551615) :
    L.Dated (steps ++ [next]) := by
  have hcount := useCounter_step_le (hL.follow steps).sound hload
  rw [List.countP_append, List.countP_singleton] at hfew
  have hbefore := h.few
  -- The count is not at the end of its range, so the step is none that does harm.
  have hsafe : ¬ (L.follow steps).FallsBehind next := by
    intro hbehind
    cases hbehind with
    | wraps _ hend =>
      rw [hend] at hbefore
      change 18446744073709551615 ≤ _ at hbefore
      omega
    | breaksOff => cases hload
  obtain ⟨hcounted, hlast⟩ := (stamps_step_iff (hL.follow steps) h.counted next).2 hsafe
  constructor
  · rwa [follow_concat]
  · rw [follow_concat, List.countP_append, List.countP_singleton]
    omega
  · rw [follow_concat]
    exact fun r x => h.unused_concat hL hload hlast
  · rw [follow_concat]
    exact fun r x => h.used_concat hL hload
  · rw [follow_concat]
    exact fun r x s y hr hs m n => h.ordered_concat hL hload hlast hr hs

theorem dated_start (approach : Approach) (station : CommandStation) :
    Dated { defaultApproach := approach, station := station } [] where
  counted _ _ hr := by cases hr
  few := Nat.le_refl 0
  unused _ _ hr := by cases hr
  used _ _ hr := by cases hr
  ordered _ _ _ _ hr := by cases hr

/-- **The stamps say what has happened**, as long as nothing is loaded and the count does
not come to its end. -/
theorem dated (approach : Approach) (station : CommandStation)
    (hloads : ∀ next ∈ steps, next.isLoad = false)
    (hfew : steps.countP Step.isLockRoute < 18446744073709551615) :
    Dated { defaultApproach := approach, station := station } steps := by
  -- The steps are taken off the end, because the stamps are about what was before.
  induction steps using List.reverseRecOn with
  | nil => exact dated_start approach station
  | append_singleton steps next ih =>
    have hshorter := hfew
    rw [List.countP_append] at hshorter
    have hdated := ih (fun next hnext => hloads next (List.mem_append_left _ hnext))
      (Nat.lt_of_le_of_lt (Nat.le_add_right _ _) hshorter)
    exact hdated.concat (.start approach station) (hloads next (by simp)) hfew

/-! ## The list -/

variable {t : SegmentId} {l : LocoId} {turn : Bool} {asked : Approach} {g : Segment}
  {order : List RouteId}

/-- On the segment the approach in effect is the one that goes by use. -/
def ByUse (M : Layout) (t : SegmentId) (asked : Approach) : Prop :=
  ∀ g, M.segments.get? t = some g → asked.inEffect g.approach M.defaultApproach = .longestUnused

theorem byUse_longestUnused (M : Layout) (t : SegmentId) : M.ByUse t .longestUnused :=
  fun _ _ => rfl

theorem selectRoutes_eq_sortByKey [Shuffling] (hg : M.segments.get? t = some g)
    (huse : M.ByUse t asked) :
    M.selectRoutes t l turn asked = (sortByKey (fun c : Candidate => c.lastUsed.toNat)
      (g.routeIds.filterMap (M.candidate? g l turn))).map Candidate.route := by
  rw [selectRoutes, hg]
  dsimp only
  rw [approachFor_eq, huse g hg, Approach.order]

/-- First come the routes that have no stamp, as the segment lists them, and then the
others. -/
theorem selectRoutes_byUse [Shuffling] (huse : M.ByUse t asked) (l : LocoId) (turn : Bool) :
    ∃ unused used, M.selectRoutes t l turn asked = unused ++ used ∧
      (∀ g, M.segments.get? t = some g → unused.Sublist g.routeIds) ∧
      (∀ r ∈ unused, ∃ x, M.routes.get? r = some x ∧ x.lastUsed = 0) ∧
      ∀ r ∈ used, ∃ x, M.routes.get? r = some x ∧ x.lastUsed ≠ 0 := by
  cases hg : M.segments.get? t with
  | none =>
    refine ⟨[], [], ?_, fun _ _ => List.nil_sublist _, by simp, by simp⟩
    rw [selectRoutes, hg]
    rfl
  | some g =>
    let candidates := g.routeIds.filterMap (M.candidate? g l turn)
    let stamp (c : Candidate) : Nat := c.lastUsed.toNat
    have hroute : ∀ {c}, c ∈ candidates →
        ∃ x, M.routes.get? c.route = some x ∧ stamp c = x.lastUsed.toNat := by
      intro c hc
      obtain ⟨r, -, hr⟩ := List.mem_filterMap.1 hc
      obtain ⟨x, destination, hx, -, -, rfl⟩ := candidate?_eq_some_iff.1 hr
      exact ⟨x, hx, rfl⟩
    have hzero : ∀ {n : UInt64}, n.toNat = 0 ↔ n = 0 := UInt64.toNat_inj (b := 0)
    refine ⟨(candidates.filter fun c => decide (stamp c = 0)).map Candidate.route,
      ((sortByKey stamp candidates).filter fun c => decide (stamp c ≠ 0)).map Candidate.route,
      ?_, ?_, ?_, ?_⟩
    · rw [← List.map_append, ← sortByKey_eq_append]
      exact selectRoutes_eq_sortByKey hg huse
    · rintro _ ⟨⟩
      exact (List.filter_sublist.map _).trans (map_route_candidates_sublist _)
    · intro r hr
      obtain ⟨c, hc, rfl⟩ := List.mem_map.1 hr
      obtain ⟨hc, hstamp⟩ := List.mem_filter.1 hc
      obtain ⟨x, hx, hcx⟩ := hroute hc
      exact ⟨x, hx, hzero.1 (hcx.symm.trans (decide_eq_true_iff.1 hstamp))⟩
    · intro r hr
      obtain ⟨c, hc, rfl⟩ := List.mem_map.1 hr
      obtain ⟨hc, hstamp⟩ := List.mem_filter.1 hc
      obtain ⟨x, hx, hcx⟩ := hroute ((sortByKey_perm stamp candidates).subset hc)
      have hused : stamp c ≠ 0 := of_decide_eq_true hstamp
      exact ⟨x, hx, fun hno => hused (hcx.trans (hzero.2 hno))⟩

/-- The routes come by their stamps, then by priority, then by age. -/
theorem Linked.pairwise_byUse [Shuffling] (h : M.Linked order) (huse : M.ByUse t asked) (l : LocoId)
    (turn : Bool) :
    (M.selectRoutes t l turn asked).Pairwise (M.Ahead .longestUnused order) := by
  cases hg : M.segments.get? t with
  | none =>
    rw [selectRoutes, hg]
    exact .nil
  | some g =>
    have happroach : M.approachFor g asked = .longestUnused := approachFor_eq.trans (huse g hg)
    have hsorted : (M.selectRoutes t l turn asked).Pairwise
        (M.Ahead (M.approachFor g asked) order) := by
      apply h.pairwise_selectRoutes hg
      rw [happroach]
      decide
    rwa [happroach] at hsorted

theorem Ahead.lastUsed_le (h : M.Ahead .longestUnused order r s) (hr : M.routes.get? r = some x)
    (hs : M.routes.get? s = some y) : x.lastUsed ≤ y.lastUsed := by
  obtain ⟨x', y', hx, hy, hxy⟩ := h
  obtain rfl := Option.some.inj (hx.symm.trans hr)
  obtain rfl := Option.some.inj (hy.symm.trans hs)
  rw [UInt64.le_iff_toNat_le]
  rcases hxy with hlt | ⟨heq, -⟩
  · exact Nat.le_of_lt hlt
  · exact Nat.le_of_eq heq

/-- One step locks one route. -/
theorem UsedLast.route_eq (hr : L.UsedLast steps r n) (hs : L.UsedLast steps s n) : r = s := by
  obtain ⟨⟨next, hnext, l, rfl, -⟩, -⟩ := hr
  obtain ⟨⟨next', hnext', l', rfl, -⟩, -⟩ := hs
  have hsame := Option.some.inj (hnext.symm.trans hnext')
  exact (Call.lockRoute.inj (Step.call.inj hsame)).1

/-- Of two routes that were used the one with the smaller stamp was used before. -/
theorem Dated.usedLast_lt (h : L.Dated steps) (hr : (L.follow steps).routes.get? r = some x)
    (hs : (L.follow steps).routes.get? s = some y) (hx : x.lastUsed ≠ 0) (hy : y.lastUsed ≠ 0)
    (hle : x.lastUsed ≤ y.lastUsed) (hne : r ≠ s) :
    ∃ m n, L.UsedLast steps r m ∧ L.UsedLast steps s n ∧ m < n := by
  obtain ⟨m, hm⟩ := h.used r x hr hx
  obtain ⟨n, hn⟩ := h.used s y hs hy
  refine ⟨m, n, hm, hn, ?_⟩
  rcases Nat.lt_trichotomy m n with hlt | rfl | hgt
  · exact hlt
  · exact absurd (hm.route_eq hn) hne
  · exact absurd (h.ordered s y r x hs hr n m hn hm hgt) (UInt64.not_lt.2 hle)

/-- **The list goes by what has happened.** -/
theorem Dated.selectRoutes [Shuffling] (h : L.Dated steps) (hL : L.Reachable)
    (huse : (L.follow steps).ByUse t asked) (l : LocoId) (turn : Bool) :
    ∃ unused used, (L.follow steps).selectRoutes t l turn asked = unused ++ used ∧
      (∀ r ∈ unused ++ used, r ∈ unused ↔ L.Unused steps r) ∧
      (∀ g, (L.follow steps).segments.get? t = some g → unused.Sublist g.routeIds) ∧
      (∀ r ∈ used, ∃ n, L.UsedLast steps r n) ∧
      used.Pairwise fun r s => ∃ m n, L.UsedLast steps r m ∧ L.UsedLast steps s n ∧ m < n := by
  obtain ⟨order, horder⟩ := (hL.follow steps).addedInOrder
  have hlinked := horder.linked.2
  obtain ⟨unused, used, hlist, hlisted, hunused, hused⟩ :=
    selectRoutes_byUse huse l turn
  have hlocked : ∀ r ∈ used, ∃ n, L.UsedLast steps r n := by
    intro r hr
    obtain ⟨x, hx, hstamp⟩ := hused r hr
    exact h.used r x hx hstamp
  refine ⟨unused, used, hlist, fun r hr => ⟨fun hr => ?_, fun hr' => ?_⟩, hlisted, hlocked, ?_⟩
  · obtain ⟨x, hx, hzero⟩ := hunused r hr
    exact h.unused r x hx hzero
  · refine (List.mem_append.1 hr).resolve_right fun hr => ?_
    obtain ⟨n, hn⟩ := hlocked r hr
    exact hn.not_unused hr'
  · have hsorted := hlinked.pairwise_byUse huse l turn
    have hnodup : ((L.follow steps).selectRoutes t l turn asked).Nodup :=
      hlinked.nodup_selectRoutes
    rw [hlist] at hsorted hnodup
    refine ((List.pairwise_append.1 hsorted).2.1.and (List.nodup_append.1 hnodup).2.1).imp_of_mem
      fun {r s} hr hs hrs => ?_
    obtain ⟨x, hx, hxused⟩ := hused r hr
    obtain ⟨y, hy, hyused⟩ := hused s hs
    exact h.usedLast_lt hx hy hxused hyused (hrs.1.lastUsed_le hx hy) hrs.2

/-! ## What does not matter to the order -/

/-- Routes that are still there after a step are still of the same age. -/
theorem AddedInOrder.step (h : M.AddedInOrder order) (hload : next.isLoad = false) :
    ∃ order', (M.step next).AddedInOrder order' ∧ ∀ r s, [r, s].Sublist order →
      (M.step next).routes.contains r = true → (M.step next).routes.contains s = true →
        [r, s].Sublist order' := by
  cases next with
  | load s => cases hload
  | elsewhere station notices => exact ⟨order, h.elsewhere station notices, fun _ _ hrs _ _ => hrs⟩
  | call c =>
    refine ⟨_, h.call c, fun r s hrs hr hs => ?_⟩
    change (M.call c).2.routes.contains r = true at hr
    change (M.call c).2.routes.contains s = true at hs
    have hkept := hrs.filter (M.call c).2.routes.contains
    rw [List.filter_cons_of_pos hr, List.filter_cons_of_pos hs, List.filter_nil] at hkept
    exact hkept.trans (List.sublist_append_left _ _)

/-- A route that is there before and after a step that locks no route has the stamp that
it had. -/
theorem route_eq_of_step (hM : M.Sound) (hload : next.isLoad = false)
    (hlock : ¬ M.Locks r next) (hr : M.routes.get? r = some x)
    (hr' : (M.step next).routes.get? r = some y) : y = x := by
  cases fate hM hload hr' with
  | kept hold => exact Option.some.inj (hold.symm.trans hr)
  | added hnew => cases hnew.symm.trans hr
  | used hlocked => exact absurd hlocked hlock

/-- Between routes that are the same as before only a change of age could decide
otherwise. -/
theorem Ahead.of_same {order' : List RouteId} (h : M.Ahead .longestUnused order r s)
    (hr : ∀ x, M.routes.get? r = some x → N.routes.get? r = some x)
    (hs : ∀ x, M.routes.get? s = some x → N.routes.get? s = some x)
    (hage : [r, s].Sublist order → [r, s].Sublist order') : N.Ahead .longestUnused order' r s := by
  obtain ⟨x, y, hx, hy, hxy⟩ := h
  refine ⟨x, y, hr x hx, hs y hy, hxy.imp_right fun ⟨hkey, htie⟩ => ⟨hkey, htie.imp_right ?_⟩⟩
  rintro ⟨hpriority, hrs⟩
  exact ⟨hpriority, hage hrs⟩

/-- **Whatever happens**, unless it is that a route is locked or that something is
loaded, the routes that are offered both before and after it come in the same order. -/
theorem Reachable.sameOrder_step [Shuffling] (hM : M.Reachable) (hload : next.isLoad = false)
    (hlock : ∀ r, ¬ M.Locks r next) (huse : M.ByUse t asked)
    (huse' : (M.step next).ByUse t asked) (l : LocoId) (turn : Bool) :
    ((M.selectRoutes t l turn asked).filter
        fun r => decide (r ∈ (M.step next).selectRoutes t l turn asked)) =
      ((M.step next).selectRoutes t l turn asked).filter
        fun r => decide (r ∈ M.selectRoutes t l turn asked) := by
  obtain ⟨order, horder⟩ := hM.addedInOrder
  obtain ⟨order', horder', hage⟩ := horder.step hload
  have hlinked := horder.linked.2
  have hlinked' := horder'.linked.2
  have hbefore := hlinked.pairwise_byUse huse l turn
  have hafter := hlinked'.pairwise_byUse huse' l turn
  have hnodup : (M.selectRoutes t l turn asked).Nodup := hlinked.nodup_selectRoutes
  have hnodup' : ((M.step next).selectRoutes t l turn asked).Nodup := hlinked'.nodup_selectRoutes
  have hregistered : ∀ {r}, r ∈ (M.step next).selectRoutes t l turn asked →
      (M.step next).routes.contains r = true ∧
        ∀ x, M.routes.get? r = some x → (M.step next).routes.get? r = some x := by
    intro r hr
    obtain ⟨y, hy, -⟩ := hlinked'.mem_selectRoutes.1 hr
    refine ⟨by rw [Registry.contains, hy]; rfl, fun x hx => ?_⟩
    rw [hy, route_eq_of_step hM.sound hload (hlock r) hx hy]
  -- What was ahead before the step is ahead after it.
  have hahead : ((M.selectRoutes t l turn asked).filter
      fun r => decide (r ∈ (M.step next).selectRoutes t l turn asked)).Pairwise
        ((M.step next).Ahead .longestUnused order') := by
    refine (hbefore.filter _).imp_of_mem fun {r s} hr hs hrs => ?_
    obtain ⟨hcontains, hr⟩ := hregistered (decide_eq_true_iff.1 (List.mem_filter.1 hr).2)
    obtain ⟨hcontains', hs⟩ := hregistered (decide_eq_true_iff.1 (List.mem_filter.1 hs).2)
    exact hrs.of_same hr hs fun hold => hage r s hold hcontains hcontains'
  have hperm : ((M.selectRoutes t l turn asked).filter
      fun r => decide (r ∈ (M.step next).selectRoutes t l turn asked)).Perm
        (((M.step next).selectRoutes t l turn asked).filter
          fun r => decide (r ∈ M.selectRoutes t l turn asked)) := by
    refine (List.perm_ext_iff_of_nodup (hnodup.filter _) (hnodup'.filter _)).2 fun r => ?_
    simp only [List.mem_filter, decide_eq_true_iff]
    exact and_comm
  exact hperm.eq_of_pairwise
    (fun r s _ _ hrs hsr => absurd hsr (hrs.asymm hlinked'.nodup)) hahead (hafter.filter _)

/-! ## The promise -/

/-- **The routes that were unused for longest come first.** After a history that begins
without objects, loads nothing, and calls for fewer locks of routes than the count can
hold, let the approach that goes by use be in effect on a segment. The list of the
routes that a loco is offered there begins with those that were not locked since they
were added, as the segment lists them. The others follow, each of them before those that
were locked after it. Another step that locks no route and loads nothing changes nothing
about the order of the routes that are offered before and after it, whether it is an
attempt to lock one, a reservation, a release, or that a route is added or deleted. -/
theorem longest_unused_follows_history [Shuffling] (approach : Approach) (station : CommandStation)
    (steps : List Step) (hloads : ∀ next ∈ steps, next.isLoad = false)
    (hfew : steps.countP Step.isLockRoute < 18446744073709551615) :
    let L : Layout := { defaultApproach := approach, station := station }
    let M := L.follow steps
    ∀ t l turn asked, M.ByUse t asked →
      (∃ unused used, M.selectRoutes t l turn asked = unused ++ used ∧
        (unused ++ used).Nodup ∧
        (∀ r, r ∈ unused ++ used ↔ ∃ x, M.routes.get? r = some x ∧ M.Suits t l turn x.config ∧
          ∀ c ∈ x.config.claims, M.Obtainable l c) ∧
        (∀ r ∈ unused ++ used, r ∈ unused ↔ L.Unused steps r) ∧
        (∀ g, M.segments.get? t = some g → unused.Sublist g.routeIds) ∧
        (∀ r ∈ used, ∃ n, L.UsedLast steps r n) ∧
        used.Pairwise fun r s => ∃ m n, L.UsedLast steps r m ∧ L.UsedLast steps s n ∧ m < n) ∧
      ∀ next : Step, next.isLoad = false → (∀ r, ¬ M.Locks r next) →
        (M.step next).ByUse t asked →
          ((M.selectRoutes t l turn asked).filter
              fun r => decide (r ∈ (M.step next).selectRoutes t l turn asked)) =
            ((M.step next).selectRoutes t l turn asked).filter
              fun r => decide (r ∈ M.selectRoutes t l turn asked) := by
  intro L M t l turn asked huse
  have hL : L.Reachable := .start approach station
  have hM : M.Reachable := hL.follow steps
  obtain ⟨order, horder⟩ := hM.addedInOrder
  have hlinked := horder.linked.2
  refine ⟨?_, fun next hload hlock huse' => hM.sameOrder_step hload hlock huse huse' l turn⟩
  obtain ⟨unused, used, hlist, hrest⟩ :=
    (dated approach station hloads hfew).selectRoutes hL huse l turn
  refine ⟨unused, used, hlist, ?_, fun r => ?_, hrest⟩
  · rw [← hlist]
    exact hlinked.nodup_selectRoutes
  · rw [← hlist]
    exact hlinked.mem_selectRoutes

/-- Route 1 was used, then route 2, and then route 1 again; another loco has tried in
vain to lock route 4. Route 3 was used last of all, but it was deleted and added again
since. When route 2 is deleted, the others stay in their order. -/
theorem longest_unused_after_readding :
    let route (r : UInt32) (priority : UInt8) : RouteConfig :=
      { id := ⟨r⟩, name := "R", priority := priority, origin := ⟨1⟩, destination := ⟨2⟩ }
    let use (r : UInt32) : List Call :=
      [.reserveRoute ⟨r⟩ ⟨7⟩, .lockRoute ⟨r⟩ ⟨7⟩, .releaseRoute ⟨r⟩ ⟨7⟩]
    let calls : List Call :=
      [.addSegment { id := ⟨1⟩, name := "T1", length := 1, sensors := [] },
        .addSegment { id := ⟨2⟩, name := "T2", length := 1, sensors := [] },
        .addRoute (route 3 1), .addRoute (route 1 0), .addRoute (route 2 0),
        .addRoute (route 4 0)] ++
      use 1 ++ use 2 ++ [.lockRoute ⟨4⟩ ⟨8⟩] ++ use 1 ++ use 3 ++
      [.deleteRoute ⟨3⟩, .addRoute (route 3 1)]
    let steps := calls.map Step.call
    let M := empty.follow steps
    let N := M.step (.call (.deleteRoute ⟨2⟩))
    M.selectRoutes ⟨1⟩ ⟨7⟩ false .longestUnused = [⟨4⟩, ⟨3⟩, ⟨2⟩, ⟨1⟩] ∧
      (∃ unused used, [⟨4⟩, ⟨3⟩, ⟨2⟩, ⟨1⟩] = unused ++ used ∧
        (∀ r ∈ unused ++ used, r ∈ unused ↔ empty.Unused steps r) ∧
        used.Pairwise fun r s =>
          ∃ m n, empty.UsedLast steps r m ∧ empty.UsedLast steps s n ∧ m < n) ∧
      [⟨4⟩, ⟨3⟩, ⟨2⟩, ⟨1⟩].filter
          (fun r => decide (r ∈ N.selectRoutes ⟨1⟩ ⟨7⟩ false .longestUnused)) =
        (N.selectRoutes ⟨1⟩ ⟨7⟩ false .longestUnused).filter
          fun r => decide (r ∈ [⟨4⟩, ⟨3⟩, ⟨2⟩, ⟨1⟩]) := by
  intro route use calls steps M N
  have hcandidates : (M.segments.get? ⟨1⟩).map
      (fun g => g.routeIds.filterMap (M.candidate? g ⟨7⟩ false)) =
        some [⟨⟨1⟩, 1, 3⟩, ⟨⟨2⟩, 1, 2⟩, ⟨⟨4⟩, 1, 0⟩, ⟨⟨3⟩, 1, 0⟩] := by decide
  have hlist : M.selectRoutes ⟨1⟩ ⟨7⟩ false .longestUnused = [⟨4⟩, ⟨3⟩, ⟨2⟩, ⟨1⟩] := by
    obtain ⟨g, hg, hcandidates⟩ := Option.map_eq_some_iff.1 hcandidates
    rw [selectRoutes_eq_sortByKey hg (byUse_longestUnused M ⟨1⟩), hcandidates]
    simp [sortByKey, List.mergeSort, List.MergeSort.Internal.splitInTwo]
  have hloads : ∀ next ∈ steps, next.isLoad = false := by
    intro next hnext
    obtain ⟨c, -, rfl⟩ := List.mem_map.1 hnext
    rfl
  have hquiet : ∀ r, ¬ M.Locks r (.call (.deleteRoute ⟨2⟩)) := by
    rintro r ⟨l, hcall, -⟩
    cases hcall
  obtain ⟨⟨unused, used, hsplit, -, -, hunused, -, -, hused⟩, hkept⟩ :=
    longest_unused_follows_history .doNotCare .silent steps hloads (by decide) ⟨1⟩ ⟨7⟩ false
      .longestUnused (byUse_longestUnused M ⟨1⟩)
  have hsame := hkept (.call (.deleteRoute ⟨2⟩)) rfl hquiet (byUse_longestUnused N ⟨1⟩)
  change (M.selectRoutes ⟨1⟩ ⟨7⟩ false .longestUnused).filter _ =
    List.filter (fun r => decide (r ∈ M.selectRoutes ⟨1⟩ ⟨7⟩ false .longestUnused)) _ at hsame
  rw [hlist] at hsame
  exact ⟨hlist, ⟨unused, used, hlist.symm.trans hsplit, hunused, hused⟩, hsame⟩

end Interlocking.Layout
