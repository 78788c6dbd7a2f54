/-
Selecting routes before a layout is saved and after it has been loaded again.

What selection looks at comes back when a layout is loaded: routes with their stamps,
locos, and what segments and accessories are configured to be. Locks do not come back,
so the two layouts are compared where nobody holds anything. Then the same routes are
offered (`Alike.mem_selectRoutes`), and what the approach goes by is the same.

One thing does not come back, and that is the age of the routes. Routes that neither
the approach nor their priorities tell apart are offered from the oldest to the
youngest, and after loading the one with the smaller id is older. So the two lists
differ by the order of such ties, and in nothing else (`selection_after_restart`).
-/
import Interlocking.Proofs.Layout.LoadingOrder
import Interlocking.Proofs.Layout.Restoring
import Interlocking.Proofs.Layout.RouteSelection

set_option autoImplicit false

namespace Interlocking.Layout

variable {L M : Layout} {t : SegmentId} {l : LocoId} {turn : Bool} {asked a : Approach}
  {order : List RouteId} {r s : RouteId}

/-! ## Layouts in which selection finds the same -/

/-- Nobody holds anything in either layout, and what selection looks at is the same, but
for the age of the routes. -/
structure Alike (L M : Layout) : Prop where
  settings : L.SameSettings M
  locos : M.locos = L.locos
  routes : M.routes = L.routes
  segments : ∀ t, (M.segments.get? t).map Segment.config = (L.segments.get? t).map Segment.config
  accessories : ∀ id,
    (M.accessories.get? id).map Accessory.config = (L.accessories.get? id).map Accessory.config
  unheld : ∀ l c, ¬ L.HeldBy l c
  unheld' : ∀ l c, ¬ M.HeldBy l c

theorem Alike.symm (h : L.Alike M) : M.Alike L where
  settings := ⟨h.settings.approach.symm, h.settings.station.symm⟩
  locos := h.locos.symm
  routes := h.routes.symm
  segments t := (h.segments t).symm
  accessories id := (h.accessories id).symm
  unheld := h.unheld'
  unheld' := h.unheld

theorem Alike.segment (h : L.Alike M) {g : Segment} (hg : L.segments.get? t = some g) :
    ∃ g', M.segments.get? t = some g' ∧ g'.config = g.config := by
  refine Option.map_eq_some_iff.1 ?_
  rw [h.segments, hg, Option.map_some]

theorem Alike.accessory (h : L.Alike M) {id : AccessoryId} {x : Accessory}
    (hx : L.accessories.get? id = some x) :
    ∃ x', M.accessories.get? id = some x' ∧ x'.config = x.config := by
  refine Option.map_eq_some_iff.1 ?_
  rw [h.accessories, hx, Option.map_some]

theorem lock_eq_free_of_unheld {c : Claim} {k : Lock} (h : ∀ l, ¬ L.HeldBy l c)
    (hk : L.lockOf? c = some k) : k = .free := by
  cases k with
  | free => rfl
  | reserved l => exact absurd (.inl hk) (h l)
  | locked l => exact absurd (.inr hk) (h l)

/-- Where nobody holds anything, only a blocked segment cannot be had. -/
theorem Alike.obtainable (h : L.Alike M) {c : Claim} (hc : L.Obtainable l c) :
    M.Obtainable l c := by
  cases c with
  | segment t =>
    obtain ⟨g, hg, hopen, -⟩ := hc
    obtain ⟨g', hg', hconfig⟩ := h.segment hg
    have hfree : g'.lock = .free := by
      refine lock_eq_free_of_unheld (c := .segment t) (fun l => h.unheld' l _) ?_
      rw [lockOf?, hg', Option.map_some]
    have hblocked : g'.blocked = g.blocked := congrArg SegmentConfig.blocked hconfig
    exact ⟨g', hg', hblocked.trans hopen, .inl hfree⟩
  | accessory id =>
    obtain ⟨x, hx, -⟩ := hc
    obtain ⟨x', hx', -⟩ := h.accessory hx
    refine ⟨x', hx', .inl (lock_eq_free_of_unheld (c := .accessory id) (fun l => h.unheld' l _) ?_)⟩
    rw [lockOf?, hx', Option.map_some]

theorem Alike.suits (h : L.Alike M) {c : RouteConfig} (hc : L.Suits t l turn c) :
    M.Suits t l turn c where
  origin := hc.origin
  departure := by
    refine hc.departure.imp_right ?_
    rintro ⟨g, hg, hfacing⟩
    obtain ⟨g', hg', hconfig⟩ := h.segment hg
    have horientation : g'.orientation = g.orientation := congrArg SegmentConfig.orientation hconfig
    exact ⟨g', hg', hfacing.trans horientation.symm⟩
  spoken x hx y hy := by
    obtain ⟨y', hy', hconfig⟩ := h.symm.accessory hy
    rw [h.settings.station, ← hconfig]
    exact hc.spoken x hx y' hy'
  length := by
    rw [h.locos]
    exact hc.length
  pushPullOnly := by
    rw [h.locos]
    exact hc.pushPullOnly
  noPushPull := by
    rw [h.locos]
    exact hc.noPushPull

/-- **The same routes** are offered. -/
theorem Alike.mem_selectRoutes [Shuffling] {order' : List RouteId} (h : L.Alike M)
    (hL : L.Linked order) (hM : M.Linked order') :
    r ∈ M.selectRoutes t l turn asked ↔ r ∈ L.selectRoutes t l turn asked := by
  rw [hM.mem_selectRoutes, hL.mem_selectRoutes, h.routes]
  constructor
  · rintro ⟨x, hr, hsuits, hclaims⟩
    exact ⟨x, hr, h.symm.suits hsuits, fun c hc => h.symm.obtainable (hclaims c hc)⟩
  · rintro ⟨x, hr, hsuits, hclaims⟩
    exact ⟨x, hr, h.suits hsuits, fun c hc => h.obtainable (hclaims c hc)⟩

theorem Alike.selectRoutes_perm [Shuffling] {order' : List RouteId} (h : L.Alike M)
    (hL : L.Linked order) (hM : M.Linked order') :
    (M.selectRoutes t l turn asked).Perm (L.selectRoutes t l turn asked) :=
  (List.perm_ext_iff_of_nodup hM.nodup_selectRoutes hL.nodup_selectRoutes).2
    fun _ => h.mem_selectRoutes hL hM

theorem Alike.approachKey_eq (h : L.Alike M) (a : Approach) (x : Route) :
    M.approachKey a x = L.approachKey a x := by
  cases a with
  | minTrackLength =>
    simp only [approachKey]
    cases hg : L.segments.get? x.config.destination with
    | none =>
      have hnone := h.segments x.config.destination
      rw [hg, Option.map_none, Option.map_eq_none_iff] at hnone
      rw [hnone]
    | some g =>
      obtain ⟨g', hg', hconfig⟩ := h.segment hg
      have hlength : g'.length = g.length := congrArg SegmentConfig.length hconfig
      rw [hg', Option.elim_some, Option.elim_some, hlength]
  | systemDefault | doNotCare | random | longestUnused => rfl

theorem Alike.ahead_iff (h : L.Alike M) : M.Ahead a order r s ↔ L.Ahead a order r s := by
  simp only [Ahead, h.routes, h.approachKey_eq]

/-! ## Ties -/

/-- Neither the approach nor the priorities tell the routes apart. -/
def Tied (L : Layout) (a : Approach) (r s : RouteId) : Prop :=
  ∃ x y, L.routes.get? r = some x ∧ L.routes.get? s = some y ∧
    L.approachKey a x = L.approachKey a y ∧ x.config.priority = y.config.priority

theorem Tied.symm (h : L.Tied a r s) : L.Tied a s r := by
  obtain ⟨x, y, hx, hy, hkey, hpriority⟩ := h
  exact ⟨y, x, hy, hx, hkey.symm, hpriority.symm⟩

/-- Of two routes that are not tied, age does not decide. -/
theorem Ahead.of_order {order' : List RouteId} (h : L.Ahead a order r s)
    (htied : L.Tied a r s → [r, s].Sublist order → [r, s].Sublist order') :
    L.Ahead a order' r s := by
  obtain ⟨x, y, hx, hy, hxy⟩ := h
  refine ⟨x, y, hx, hy, hxy.imp_right fun ⟨hkey, hnext⟩ => ⟨hkey, hnext.imp_right ?_⟩⟩
  rintro ⟨hpriority, hage⟩
  exact ⟨hpriority, htied ⟨x, y, hx, hy, hkey, hpriority⟩ hage⟩

theorem Ahead.age_of_tied (h : L.Ahead a order r s) (htied : L.Tied a r s) :
    [r, s].Sublist order := by
  obtain ⟨x, y, hx, hy, hxy⟩ := h
  obtain ⟨x', y', hx', hy', hkey, hpriority⟩ := htied
  obtain rfl := Option.some.inj (hx.symm.trans hx')
  obtain rfl := Option.some.inj (hy.symm.trans hy')
  rcases hxy with hless | ⟨-, hless | ⟨-, hage⟩⟩
  · rw [hkey] at hless
    exact absurd hless (Nat.lt_irrefl _)
  · rw [hpriority] at hless
    exact absurd hless (UInt8.lt_irrefl _)
  · exact hage

theorem Ahead.asymm (hnodup : order.Nodup) (h : L.Ahead a order r s) : ¬ L.Ahead a order s r := by
  intro h'
  obtain ⟨x, y, hx, hy, hxy⟩ := h
  obtain ⟨y', x', hy', hx', hyx⟩ := h'
  obtain rfl := Option.some.inj (hx.symm.trans hx')
  obtain rfl := Option.some.inj (hy.symm.trans hy')
  simp only [UInt8.lt_iff_toNat_lt, ← UInt8.toNat_inj] at hxy hyx
  -- Nothing but the age is left to decide, and it cannot decide both ways.
  have hage : [r, s].Sublist order ∧ [s, r].Sublist order := by
    rcases hxy with hkey | ⟨hkey, hpriority | ⟨hpriority, hage⟩⟩ <;>
      rcases hyx with hkey' | ⟨hkey', hpriority' | ⟨hpriority', hage'⟩⟩ <;>
      first
      | exact ⟨hage, hage'⟩
      | omega
  exact not_sublist_swap hnodup hage.1 hage.2

/-- Two ages of the routes put a list into the same order exactly if they agree on the
ties in it. -/
theorem eq_of_ahead_iff {rs rs' : List RouteId} {order' : List RouteId} (hperm : rs'.Perm rs)
    (hnodup : rs.Nodup) (horder : order.Nodup) (horder' : order'.Nodup)
    (hrs : rs.Pairwise (L.Ahead a order)) (hrs' : rs'.Pairwise (L.Ahead a order')) :
    rs' = rs ↔ ∀ r ∈ rs, ∀ s ∈ rs, L.Tied a r s → [r, s].Sublist order →
      [r, s].Sublist order' := by
  constructor
  · rintro rfl r hr s hs htied hage
    have hne : r ≠ s := by
      rintro rfl
      simpa using hage.nodup horder
    rcases sublist_or_swap hr hs hne with hrs'' | hsr
    · exact (List.pairwise_iff_forall_sublist.1 hrs' hrs'').age_of_tied htied
    · -- The younger one would come first.
      have hswap := (List.pairwise_iff_forall_sublist.1 hrs hsr).age_of_tied htied.symm
      exact absurd hswap (not_sublist_swap horder hage)
  · intro hties
    -- If they agree on ties, then both lists are sorted by the order of `rs'`.
    refine hperm.eq_of_pairwise (fun r s _ _ hrs hsr => ?_) hrs' (hrs.imp_of_mem ?_)
    · exact absurd hsr (hrs.asymm horder')
    · intro r s hr hs hahead
      exact hahead.of_order fun htied => hties r hr s hs htied

/-- Of two registered routes the one with the smaller id is listed first. -/
theorem sublist_keys_iff (hr : r ∈ L.routes.keys) (hs : s ∈ L.routes.keys) :
    [r, s].Sublist L.routes.keys ↔ r.number < s.number := by
  have hascending : ∀ {r s}, [r, s].Sublist L.routes.keys → r.number < s.number := fun h =>
    Ident.compare_eq_lt.1 (List.pairwise_iff_forall_sublist.1 L.routes.pairwise_keys h)
  refine ⟨hascending, fun hless => ?_⟩
  have hne : r ≠ s := by
    rintro rfl
    exact UInt32.lt_irrefl _ hless
  refine (sublist_or_swap hr hs hne).resolve_right fun hswap => ?_
  exact UInt32.lt_asymm hless (hascending hswap)

theorem unheld_of_free (hsegments : ∀ g ∈ L.segments.values, g.lock = .free)
    (haccessories : ∀ x ∈ L.accessories.values, x.lock = .free) (l : LocoId) (c : Claim) :
    ¬ L.HeldBy l c := by
  intro hheld
  cases c with
  | segment t =>
    obtain ⟨g, hg, hl⟩ := heldBy_segment_iff.1 hheld
    rw [hsegments g ((L.segments.mem_values_iff g).2 ⟨t, hg⟩)] at hl
    cases hl
  | accessory id =>
    obtain ⟨x, hx, hl⟩ := heldBy_accessory_iff.1 hheld
    rw [haccessories x ((L.accessories.mem_values_iff x).2 ⟨id, hx⟩)] at hl
    cases hl

/-! ## A restart -/

/-- What is selected in `M` is what is selected in `L`, up to the order of ties. -/
structure Reselects [Shuffling] (L M : Layout) : Prop where
  /-- The same routes are selected, each of them once. -/
  perm : ∀ t l turn asked,
    (M.selectRoutes t l turn asked).Perm (L.selectRoutes t l turn asked) ∧
      (L.selectRoutes t l turn asked).Nodup
  /-- Both lists have the order of the approach and the priorities. Ties are ordered by
  age in the one and by id in the other, and that is the only difference. -/
  ordered : ∀ order, L.AddedInOrder order → ∀ t g, L.segments.get? t = some g →
    ∀ l turn asked a, asked.inEffect g.approach L.defaultApproach = a → a ≠ .random →
      (L.selectRoutes t l turn asked).Pairwise (L.Ahead a order) ∧
      (M.selectRoutes t l turn asked).Pairwise (L.Ahead a L.routes.keys) ∧
      (M.selectRoutes t l turn asked = L.selectRoutes t l turn asked ↔
        ∀ r ∈ L.selectRoutes t l turn asked, ∀ s ∈ L.selectRoutes t l turn asked,
          L.Tied a r s → [r, s].Sublist order → r.number < s.number)

theorem Alike.reselects [Shuffling] (h : L.Alike M) (hL : L.Linked order)
    (hM : M.AddedInOrder L.routes.keys) : L.Reselects M where
  perm t l turn asked := ⟨h.selectRoutes_perm hL hM.linked.2, hL.nodup_selectRoutes⟩
  ordered order' horder' t g hg l turn asked a ha hrandom := by
    obtain ⟨g', hg', hconfig⟩ := h.segment hg
    have hown : g'.approach = g.approach := congrArg SegmentConfig.approach hconfig
    -- The same approach is in effect in both layouts.
    have hbefore : L.approachFor g asked = a := approachFor_eq.trans ha
    have hafter : M.approachFor g' asked = a := by
      rw [approachFor_eq, hown, h.settings.approach, ha]
    have hsortedL : (L.selectRoutes t l turn asked).Pairwise (L.Ahead a order') := by
      rw [← hbefore] at hrandom ⊢
      exact horder'.linked.2.pairwise_selectRoutes hg hrandom
    have hsortedM : (M.selectRoutes t l turn asked).Pairwise (L.Ahead a L.routes.keys) := by
      rw [← hafter] at hrandom ⊢
      exact (hM.linked.2.pairwise_selectRoutes hg' hrandom).imp h.ahead_iff.1
    refine ⟨hsortedL, hsortedM, ?_⟩
    rw [eq_of_ahead_iff (h.selectRoutes_perm hL hM.linked.2) hL.nodup_selectRoutes
      horder'.linked.2.nodup L.routes.nodup_keys hsortedL hsortedM]
    have hregistered : ∀ r ∈ L.selectRoutes t l turn asked, r ∈ L.routes.keys := by
      intro r hr
      obtain ⟨x, hx, -⟩ := hL.mem_selectRoutes.1 hr
      rw [Registry.mem_keys_iff, hx]
      rfl
    refine forall₂_congr fun r hr => forall₂_congr fun s hs => ?_
    rw [sublist_keys_iff (hregistered r hr) (hregistered s hs)]

/-- A layout that nobody holds anything of is the same for selection when it has been
restored. -/
theorem Restored.alike (h : L.Restored M) (hsettings : L.SameSettings M)
    (hfree : ∀ l c, ¬ L.HeldBy l c) : L.Alike M where
  settings := hsettings
  locos := h.locos
  routes := h.routes
  segments := h.segments
  accessories id := by
    rw [h.accessories, Option.map_map]
    rfl
  unheld := hfree
  unheld' := by
    refine unheld_of_free (fun g hg => ?_) (fun x hx => ?_)
    · obtain ⟨t, hg⟩ := (M.segments.mem_values_iff g).1 hg
      exact (h.free t g hg).1
    · obtain ⟨id, hx⟩ := (M.accessories.mem_values_iff x).1 hx
      rw [h.accessories] at hx
      obtain ⟨y, -, rfl⟩ := Option.map_eq_some_iff.1 hx
      rfl

section Stores

variable {σ : Type} [Store σ] {entities : σ → Registry EntityKey Fields}
  {make : Registry EntityKey Fields → σ}

theorem reselects_make [Shuffling] (hs : Store.Reliable σ entities make) (hL : L.AddedInOrder order)
    (hfree : ∀ l c, ¬ L.HeldBy l c) :
    ∃ M, load (make L.image)
        { defaultApproach := L.defaultApproach, station := L.station } = (.ok (), M) ∧
      L.Reselects M := by
  obtain ⟨M, hM, hrestored⟩ := (holds_make hs hL).loads L.defaultApproach L.station
  refine ⟨M, hM, ?_⟩
  let start : Layout := { defaultApproach := L.defaultApproach, station := L.station }
  have hstart : start.InIdOrder := AddedInOrder.start L.defaultApproach L.station
  have hkeys : ∀ k keys, Store.keys k (make L.image) = .ok keys → Ascending k keys := by
    intro k keys hlisted
    rw [hs.keys] at hlisted
    obtain rfl := Except.ok.inj hlisted
    exact k.ascending_keysIn _
  have hage := hstart.load rfl hkeys
  have hsettings := sameSettings_load hstart.linked.1 (make L.image)
  rw [hM] at hage hsettings
  have halike : L.Alike M := hrestored.alike ⟨hsettings.approach, hsettings.station⟩ hfree
  refine halike.reselects hL.linked.2 ?_
  rw [← hrestored.routes]
  exact hage

end Stores

/-- **Selecting after a restart.** Let nobody hold anything in a layout that operations
lead to. The layout is saved, in memory or in a file, and loaded into a layout without
objects that has the same approach and the same command station. Then for every loco on
every segment the same routes are selected. Unless the approach in effect is random,
both lists go by that approach and then by priority. Ties are in the order in which the
routes were registered before the restart, and in the order of their ids after it; so
the lists are equal exactly if, of any two routes in them that are tied, the one that
was registered first has the smaller id. -/
theorem selection_after_restart [Shuffling] (hL : L.Reachable) (hfree : ∀ l c, ¬ L.HeldBy l c) :
    (∀ s : MemoryStore, ∃ s' M, L.save s = (.ok (), s') ∧
      load s' { defaultApproach := L.defaultApproach, station := L.station } = (.ok (), M) ∧
      L.Reselects M) ∧
    ∀ s : FileStore, ∃ s' M, L.save s = (.ok (), s') ∧ s'.reopen = .ok s' ∧
      load s' { defaultApproach := L.defaultApproach, station := L.station } = (.ok (), M) ∧
      L.Reselects M := by
  obtain ⟨order, horder⟩ := hL.addedInOrder
  constructor
  · intro s
    obtain ⟨M, hM, hsame⟩ := reselects_make MemoryStore.reliable horder hfree
    exact ⟨_, M, horder.save_eq MemoryStore.reliable s, hM, hsame⟩
  · intro s
    obtain ⟨M, hM, hsame⟩ := reselects_make FileStore.reliable horder hfree
    exact ⟨_, M, horder.save_eq FileStore.reliable s, FileStore.reopen_written L.image, hM, hsame⟩

/-- Route 5 goes first because of its priority, though it was registered first and has
the greatest id but one. Routes 4 and 6 are tied, and the older one has the smaller id,
so a restart does not change the list. -/
theorem selection_after_restart_with_ordered_ties :
    let route (r : UInt32) (priority : UInt8) : RouteConfig :=
      { id := ⟨r⟩, name := "R", priority := priority, origin := ⟨1⟩, destination := ⟨2⟩ }
    let calls : List Call :=
      [.addSegment { id := ⟨1⟩, name := "T1", length := 1, sensors := [] },
       .addSegment { id := ⟨2⟩, name := "T2", length := 1, sensors := [] },
       .addRoute (route 5 0), .addRoute (route 4 1), .addRoute (route 6 1)]
    let L := empty.run calls
    ∃ s M, L.save ({} : MemoryStore) = (.ok (), s) ∧
      load s { defaultApproach := L.defaultApproach, station := L.station } = (.ok (), M) ∧
      M.selectRoutes ⟨1⟩ ⟨7⟩ false .systemDefault = [⟨5⟩, ⟨4⟩, ⟨6⟩] := by
  intro route calls L
  have hL : L.Reachable := (Reachable.start .doNotCare .silent).run calls
  have hfree : ∀ l c, ¬ L.HeldBy l c := unheld_of_free (by decide) (by decide)
  obtain ⟨s, M, hs, hM, hsame⟩ := (selection_after_restart hL hfree).1 {}
  refine ⟨s, M, hs, hM, ?_⟩
  have horder : L.AddedInOrder [⟨5⟩, ⟨4⟩, ⟨6⟩] := by
    have hrun : L.AddedInOrder (orderAfter empty [] calls) :=
      (AddedInOrder.start .doNotCare .silent).run calls
    have heq : orderAfter empty [] calls = [⟨5⟩, ⟨4⟩, ⟨6⟩] := by decide
    rwa [heq] at hrun
  have hbefore : L.selectRoutes ⟨1⟩ ⟨7⟩ false .systemDefault = [⟨5⟩, ⟨4⟩, ⟨6⟩] := by decide
  have happroaches : (L.segments.get? ⟨1⟩).map Segment.approach = some .systemDefault ∧
      L.defaultApproach = .doNotCare := by decide
  obtain ⟨g, hg, hown⟩ := Option.map_eq_some_iff.1 happroaches.1
  have heffect : Approach.inEffect .systemDefault g.approach L.defaultApproach = .doNotCare := by
    rw [hown, happroaches.2]
    decide
  obtain ⟨-, -, hiff⟩ := hsame.ordered _ horder ⟨1⟩ g hg ⟨7⟩ false .systemDefault _ heffect (by decide)
  have hties : ∀ r ∈ [⟨5⟩, ⟨4⟩, ⟨6⟩], ∀ s ∈ [⟨5⟩, ⟨4⟩, ⟨6⟩],
      (L.routes.get? r).map (fun x => x.config.priority) =
        (L.routes.get? s).map (fun x => x.config.priority) →
      [r, s].Sublist [⟨5⟩, ⟨4⟩, ⟨6⟩] → r.number < s.number := by decide
  rw [← hbefore, hiff, hbefore]
  rintro r hr s hs ⟨x, y, hx, hy, -, hpriority⟩
  refine hties r hr s hs ?_
  rw [hx, hy, Option.map_some, Option.map_some, hpriority]

/-- **Ties can turn around.** Of two routes that nothing tells apart, the one with the
greater id was registered first. It is selected first before the restart, and last
after it. -/
theorem ties_turn_around_after_restart :
    let route (r : UInt32) : RouteConfig :=
      { id := ⟨r⟩, name := "R", origin := ⟨1⟩, destination := ⟨2⟩ }
    let calls : List Call :=
      [.addSegment { id := ⟨1⟩, name := "T1", length := 1, sensors := [] },
       .addSegment { id := ⟨2⟩, name := "T2", length := 1, sensors := [] },
       .addRoute (route 2), .addRoute (route 1)]
    let L := empty.run calls
    L.Reachable ∧ (∀ l c, ¬ L.HeldBy l c) ∧
      ∃ s M, L.save ({} : MemoryStore) = (.ok (), s) ∧
        load s { defaultApproach := L.defaultApproach, station := L.station } = (.ok (), M) ∧
        L.selectRoutes ⟨1⟩ ⟨7⟩ false .systemDefault = [⟨2⟩, ⟨1⟩] ∧
        M.selectRoutes ⟨1⟩ ⟨7⟩ false .systemDefault = [⟨1⟩, ⟨2⟩] := by
  intro route calls L
  have hL : L.Reachable := (Reachable.start .doNotCare .silent).run calls
  have hfree : ∀ l c, ¬ L.HeldBy l c := unheld_of_free (by decide) (by decide)
  have hbefore : L.selectRoutes ⟨1⟩ ⟨7⟩ false .systemDefault = [⟨2⟩, ⟨1⟩] := by decide
  obtain ⟨order, horder⟩ := hL.addedInOrder
  obtain ⟨M, hM, hsame⟩ := reselects_make MemoryStore.reliable horder hfree
  refine ⟨hL, hfree, _, M, horder.save_eq MemoryStore.reliable {}, hM, hbefore, ?_⟩
  have happroaches : (L.segments.get? ⟨1⟩).map Segment.approach = some .systemDefault := by decide
  obtain ⟨g, hg, hown⟩ := Option.map_eq_some_iff.1 happroaches
  have heffect : Approach.inEffect .systemDefault g.approach L.defaultApproach = .doNotCare := by
    rw [hown]
    decide
  obtain ⟨-, hsorted, -⟩ :=
    hsame.ordered order horder ⟨1⟩ g hg ⟨7⟩ false .systemDefault _ heffect (by decide)
  have hperm := (hsame.perm ⟨1⟩ ⟨7⟩ false .systemDefault).1
  rw [hbefore] at hperm
  -- There is one order in which both routes can come, the one of their ids.
  have hahead : L.Ahead .doNotCare L.routes.keys ⟨1⟩ ⟨2⟩ := by
    refine ⟨{ config := route 1 }, { config := route 2 }, by decide, by decide,
      .inr ⟨rfl, .inr ⟨rfl, ?_⟩⟩⟩
    exact (sublist_keys_iff (by decide) (by decide)).2 (by decide)
  refine (hperm.trans (.swap _ _ _)).eq_of_pairwise
    (fun r s _ _ hrs hsr => absurd hsr (hrs.asymm L.routes.nodup_keys)) hsorted ?_
  exact List.pairwise_pair.2 hahead

end Interlocking.Layout
