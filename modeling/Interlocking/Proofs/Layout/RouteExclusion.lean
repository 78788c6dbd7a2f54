/-
Reserved routes do not overlap.

A loco that has reserved a route holds everything that the route claims, and no
release of any of it waits. That is more than being the holder, and it is what
lasts: a report can take a segment from its holder only if a release waits for
it, and a release is put off only by the holder. So each claimed thing stays
with the loco through every operation except those by which somebody gives it up
or takes it by force (`Call.Endangers`).

As long as this lasts, a second route that shares one thing with the first is
out of reach for every other loco.
-/
import Interlocking.Proofs.Layout.RouteReservation
import Interlocking.Proofs.Layout.Selection
import Interlocking.Proofs.Segment.Exclusion

set_option autoImplicit false

namespace Interlocking

/-! ## One segment, one accessory -/

/-- The loco holds the segment, and no release of it waits. -/
structure Segment.SecuredBy (g : Segment) (a : LocoId) : Prop where
  holder : g.lock.holder? = some a
  pending : g.pendingRelease = none

/-- The calls by which a loco can lose a segment, now or when it clears. -/
def Segment.Call.Endangers (a : LocoId) : Segment.Call → Prop
  | .release l | .unreserve l => l = a
  | .releaseForce _ => True
  | .reserveForce l => l ≠ a
  | _ => False

theorem Segment.SecuredBy.call {g : Segment} {a : LocoId} (hg : g.SecuredBy a)
    {c : Segment.Call} (hc : ¬ c.Endangers a) : (g.call c).segment.SecuredBy a := by
  refine ⟨?_, ?_⟩
  · by_contra hne
    cases loses_of_holder_ne hg.holder hne with
    | release => exact hc rfl
    | unreserve => exact hc rfl
    | releaseForce => exact hc trivial
    | reserveForce b hb => exact hc hb
    | report _ _ _ hp => cases hg.pending.symm.trans hp
  · obtain ⟨answer, k, heff, -, -, hpending, -, -⟩ := g.call_parts c
    rw [hpending]
    -- A release begins to wait only at the call of the holder.
    cases heff with
    | refused | setting | unmoved | entered | locked | unlocked | dropped => exact hg.pending
    | cleared | fired | seized | released | freed => rfl
    | taken l | kept l =>
      dsimp only
      rw [hg.pending, ite_self]
    | putOff l hl => exact absurd (Option.some.inj (hl.symm.trans hg.holder)) hc

theorem Segment.SecuredBy.run {g : Segment} {a : LocoId} (hg : g.SecuredBy a)
    {calls : List Segment.Call} (hcalls : ∀ c ∈ calls, ¬ c.Endangers a) :
    (g.run calls).SecuredBy a :=
  List.foldlRecOn calls (motive := fun g : Segment => g.SecuredBy a) _ hg
    fun _ hg c hc => hg.call (hcalls c hc)

/-- The calls by which a loco can lose an accessory. -/
def Accessory.Call.Endangers (a : LocoId) : Accessory.Call → Prop
  | .release l | .unreserve l => l = a
  | _ => False

theorem Accessory.holder_call {x : Accessory} {a : LocoId} (hx : x.lock.holder? = some a)
    {c : Accessory.Call} (hc : ¬ c.Endangers a) : (x.call c).2.lock.holder? = some a := by
  have hloco {l : LocoId} (hl : x.lock.holder? = some l) : l = a :=
    Option.some.inj (hl.symm.trans hx)
  cases c with
  | reserve l =>
    simp only [call]
    split
    next grant x' hr =>
      cases takes_of_tryReserve hr with
      | new hl => cases (congrArg Lock.holder? hl).symm.trans hx
      | held => exact hx
    next => exact hx
  | lock l =>
    simp only [call]
    split
    next newly x' hr =>
      obtain ⟨k, hk, hx'⟩ := Option.map_eq_some_iff.1 hr
      obtain ⟨hl, rfl⟩ := Lock.lock_eq_some_iff.1 hk
      obtain rfl := (Prod.mk.inj hx').2
      exact hl.symm.trans hx
    next => exact hx
  | unlock l =>
    simp only [call, step]
    split
    next k hk =>
      obtain ⟨hl, rfl⟩ := Lock.unlock_eq_some_iff.1 hk
      exact (congrArg Lock.holder? hl).symm.trans hx
    next => exact hx
  | release l =>
    simp only [call, step]
    split
    next k hk => exact absurd (hloco (Lock.release_eq_some_iff.1 hk).1) hc
    next => exact hx
  | unreserve l =>
    simp only [call, step]
    split
    next k hk =>
      have hl := (Lock.unreserve_eq_some_iff.1 hk).1
      exact absurd (hloco (congrArg Lock.holder? hl)) hc
    next => exact hx
  | setOutput o => exact hx

theorem Accessory.holder_run {x : Accessory} {a : LocoId} (hx : x.lock.holder? = some a)
    {calls : List Accessory.Call} (hcalls : ∀ c ∈ calls, ¬ c.Endangers a) :
    (x.run calls).lock.holder? = some a :=
  List.foldlRecOn calls (motive := fun x : Accessory => x.lock.holder? = some a) _ hx
    fun _ hx c hc => holder_call hx (hcalls c hc)

/-! ## One operation -/

/-- The calls by which a loco can lose one of the claimed things. -/
def Deed.Endangers (a : LocoId) (cs : List Claim) : Deed → Prop
  | .segment t c => .segment t ∈ cs ∧ c.Endangers a
  | .accessory id c => .accessory id ∈ cs ∧ c.Endangers a

namespace Layout

variable {L M : Layout} {P : Deed → Prop} {a b : LocoId} {cs : List Claim} {c : Claim}

/-- The loco holds the claimed thing, and no release of it waits. -/
def Secures (L : Layout) (a : LocoId) : Claim → Prop
  | .segment t => ∃ g, L.segments.get? t = some g ∧ g.SecuredBy a
  | .accessory id => ∃ x, L.accessories.get? id = some x ∧ x.lock.holder? = some a

theorem Secures.of_same (h : L.Secures a c) (hs : M.segments = L.segments)
    (ha : M.accessories = L.accessories) : M.Secures a c := by
  cases c with
  | segment t => rwa [Secures, hs]
  | accessory id => rwa [Secures, ha]

/-- A loco that has got what it asked for is about to give up none of it. -/
theorem Granted.secures (hL : L.Sound) (h : L.Granted a cs M) (hcs : ∀ c ∈ cs, L.Obtainable a c)
    (hc : c ∈ cs) : M.Secures a c := by
  cases c with
  | segment t =>
    obtain ⟨g, hg, -, hl⟩ := hcs _ hc
    refine ⟨g.grantedTo a, by rw [h.segments, hg, Option.map_some, if_pos hc], ?_⟩
    rcases hl with hl | hl
    · rw [Segment.grantedTo_of_free hl]
      exact ⟨rfl, (hL.segments t g hg).pending_of_free hl⟩
    · rw [Segment.grantedTo_of_held (Lock.ne_free_of_holder hl)]
      exact ⟨hl, rfl⟩
  | accessory id =>
    obtain ⟨x, hx, hl⟩ := hcs _ hc
    refine ⟨x.grantedTo a, by rw [h.accessories, hx, Option.map_some, if_pos hc], ?_⟩
    rcases hl with hl | hl
    · rw [Accessory.grantedTo, if_pos hl]
      rfl
    · rw [Accessory.grantedTo, if_neg (Lock.ne_free_of_holder hl)]
      exact hl

/-! What is added is not there before, and what is deleted is held by nobody. So
neither is what the loco has secured. -/

theorem Secures.insertSegment (h : L.Secures a c) {t : SegmentId}
    (hnew : L.segments.get? t = none) (g : Segment) :
    Secures { L with segments := L.segments.insert t g } a c := by
  cases c with
  | segment t' =>
    obtain ⟨g', hg', hsecured⟩ := h
    have hne : t' ≠ t := by
      rintro rfl
      cases hnew.symm.trans hg'
    exact ⟨g', by rw [Registry.get?_insert_of_ne _ hne, hg'], hsecured⟩
  | accessory id => exact h

theorem Secures.eraseSegment (h : L.Secures a c) {t : SegmentId} {g : Segment}
    (hg : L.segments.get? t = some g) (huse : g.inUse = false) :
    Secures { L with segments := L.segments.erase t } a c := by
  cases c with
  | segment t' =>
    obtain ⟨g', hg', hsecured⟩ := h
    have hne : t' ≠ t := by
      rintro rfl
      obtain rfl := Option.some.inj (hg.symm.trans hg')
      have hheld : g.lock.isFree = false :=
        Lock.isFree_eq_false_iff.2 (Lock.ne_free_of_holder hsecured.holder)
      simp [Segment.inUse, hheld] at huse
    exact ⟨g', by rw [Registry.get?_erase, if_neg hne, hg'], hsecured⟩
  | accessory id => exact h

theorem Secures.insertAccessory (h : L.Secures a c) {id : AccessoryId}
    (hnew : L.accessories.get? id = none) (x : Accessory) :
    Secures { L with accessories := L.accessories.insert id x } a c := by
  cases c with
  | segment t => exact h
  | accessory id' =>
    obtain ⟨x', hx', hl⟩ := h
    have hne : id' ≠ id := by
      rintro rfl
      cases hnew.symm.trans hx'
    exact ⟨x', by rw [Registry.get?_insert_of_ne _ hne, hx'], hl⟩

theorem Secures.eraseAccessory (h : L.Secures a c) {id : AccessoryId} {x : Accessory}
    (hx : L.accessories.get? id = some x) (hfree : x.lock = .free) :
    Secures { L with accessories := L.accessories.erase id } a c := by
  cases c with
  | segment t => exact h
  | accessory id' =>
    obtain ⟨x', hx', hl⟩ := h
    have hne : id' ≠ id := by
      rintro rfl
      obtain rfl := Option.some.inj (hx.symm.trans hx')
      exact Lock.ne_free_of_holder hl hfree
    exact ⟨x', by rw [Registry.get?_erase, if_neg hne, hx'], hl⟩

theorem Secures.modifySegments (h : L.Secures a c) {ids : List SegmentId}
    {change : Segment → Segment} (hagain : ∀ g, change (change g) = change g)
    (hchange : ∀ g, g.SecuredBy a → (change g).SecuredBy a) :
    (L.modifySegments ids change).Secures a c := by
  cases c with
  | segment t =>
    obtain ⟨g, hg, hsecured⟩ := h
    refine ⟨_, by rw [get?_modifySegments hagain, hg, Option.map_some], ?_⟩
    split
    · exact hchange g hsecured
    · exact hsecured
  | accessory id =>
    obtain ⟨x, hx, hl⟩ := h
    exact ⟨x, by rw [modifySegments_eq]; exact hx, hl⟩

section Operations

variable (hP : ∀ d, P d → ¬ d.Endangers a cs)
include hP

theorem Secures.called (h : L.Secures a c) (hc : c ∈ cs) (hM : L.Called P M) : M.Secures a c := by
  cases c with
  | segment t =>
    obtain ⟨g, hg, hsecured⟩ := h
    obtain ⟨calls, hcalls, hsame⟩ := hM.segments t
    refine ⟨g.run calls, by rw [hsame, hg, Option.map_some], hsecured.run fun call hcall hend => ?_⟩
    exact hP _ (hcalls call hcall) ⟨hc, hend⟩
  | accessory id =>
    obtain ⟨x, hx, hl⟩ := h
    obtain ⟨calls, hcalls, hsame⟩ := hM.accessories id
    refine ⟨x.run calls, by rw [hsame, hx, Option.map_some], Accessory.holder_run hl ?_⟩
    intro call hcall hend
    exact hP _ (hcalls call hcall) ⟨hc, hend⟩

/-- An operation that makes no dangerous call takes nothing from the loco. -/
theorem Secures.does (h : L.Secures a c) (hc : c ∈ cs) (hM : L.Does P M) : M.Secures a c := by
  cases hM with
  | calls hM => exact h.called hP hc hM
  | addsSegment hM config sensors hnew => exact (h.called hP hc hM).insertSegment hnew _
  | deletesSegment hM hg huse hroutes => exact (h.called hP hc hM).eraseSegment hg huse
  | addsAccessory config hnew => exact h.insertAccessory hnew _
  | deletesAccessory hx hfree hunused => exact h.eraseAccessory hx hfree
  | addsRoute config hnew hrefs =>
    have hadded : Secures { L with routes := L.routes.insert config.id { config := config } } a c :=
      h.of_same rfl rfl
    refine hadded.modifySegments (fun g => Segment.addRoute_addRoute) fun g hg => ?_
    exact hg.call (c := .addRoute config.id config.priority) id
  | @deletesRoute r x hr =>
    have herased : Secures { L with routes := L.routes.erase r } a c := h.of_same rfl rfl
    refine herased.modifySegments (fun g => Segment.removeRoute_removeRoute) fun g hg => ?_
    exact hg.call (c := .removeRoute r) id

end Operations

/-! ## A run of operations -/

/-- The operations by which a loco can lose what it has claimed: a claimed segment
is given up or taken by force, by whomever, or the loco itself gives up a route,
whichever. -/
def Call.Endangers (a : LocoId) (cs : List Claim) : Call → Prop
  | .release t _ | .releaseForce t _ | .reserveForce t _ => .segment t ∈ cs
  | .releaseRoute _ l => l = a
  | _ => False

/-- Every other operation makes only calls that are no danger. -/
theorem Call.Makes.not_endangers {call : Call} (hcall : ¬ call.Endangers a cs) {d : Deed}
    (h : call.Makes d) : ¬ d.Endangers a cs := by
  intro hd
  cases h with
  | release | releaseForce | reserveForce => exact hcall hd.1
  | releaseSegment | releaseAccessory => exact hcall hd.2
  | reserve | lock | setBlocked | setOrientation | setSensorState | reserveSegment
  | reserveAccessory | lockSegment | lockAccessory | setOutput => exact hd.2
  | updateSegment config sensors hset =>
    simp only [settingCalls, List.mem_cons, List.not_mem_nil, or_false] at hset
    rcases hset with rfl | rfl | rfl | rfl | rfl | rfl | rfl | rfl <;> exact hd.2

/-- **A run.** What a loco has secured stays with it as long as no operation is a
danger to it. -/
theorem Secures.reaches (hL : L.Sound) (h : L.Secures a c) (hc : c ∈ cs)
    (hM : L.Reaches (fun call => ¬ call.Endangers a cs) M) : M.Sound ∧ M.Secures a c := by
  -- Soundness goes along, since what an operation does is known of sound layouts only.
  induction hM with
  | refl => exact ⟨hL, h⟩
  | @call M _ call hcall ih =>
    obtain ⟨hsound, hsecures⟩ := ih
    have hdoes := does_call hsound call
    exact ⟨hsound.call call, hsecures.does (fun _ hd => hd.not_endangers hcall) hc hdoes⟩
  | load _ s ih =>
    refine load_keeps (P := fun M => M.Sound ∧ M.Secures a c) ?_ ?_ s ih
    · rintro key f M ⟨hsound, hsecures⟩
      -- Adding a stored object makes no calls at all.
      obtain ⟨N, hadds, hstamps⟩ := does_addStored (P := fun _ => False) hsound.calm key f
      have hadded := hsecures.does (fun _ hd => hd.elim) hc hadds
      exact ⟨hsound.addStored key f, hadded.called (fun _ hd => hd.elim) hc hstamps⟩
    · rintro n M ⟨hsound, hsecures⟩
      exact ⟨⟨hsound.calm, hsound.segments⟩, hsecures.of_same rfl rfl⟩
  | elsewhere _ station notices ih =>
    obtain ⟨hsound, hsecures⟩ := ih
    exact ⟨⟨hsound.calm, hsound.segments⟩, hsecures.of_same rfl rfl⟩

/-! ## Reserved routes -/

theorem Secures.heldBy (h : L.Secures a c) : L.HeldBy a c := by
  cases c with
  | segment t =>
    obtain ⟨g, hg, hsecured⟩ := h
    exact heldBy_segment_iff.2 ⟨g, hg, hsecured.holder⟩
  | accessory id => exact heldBy_accessory_iff.2 h

theorem knows_of_heldBy (h : L.HeldBy a c) : L.knows c = true := by
  cases c with
  | segment t =>
    obtain ⟨g, hg, -⟩ := heldBy_segment_iff.1 h
    rw [knows, Registry.contains, hg]
    rfl
  | accessory id =>
    obtain ⟨x, hx, -⟩ := heldBy_accessory_iff.1 h
    rw [knows, Registry.contains, hx]
    rfl

/-- What one loco holds another can neither have nor hold. -/
theorem not_obtainable_of_heldBy (h : L.HeldBy a c) (hab : b ≠ a) : ¬ L.Obtainable b c := by
  have hlock {k : Lock} (ha : k.holder? = some a) : ¬ (k = .free ∨ k.holder? = some b) := by
    rintro (hfree | hb)
    · exact Lock.ne_free_of_holder ha hfree
    · exact hab (Option.some.inj (hb.symm.trans ha))
  cases c with
  | segment t =>
    obtain ⟨g, hg, ha⟩ := heldBy_segment_iff.1 h
    rintro ⟨g', hg', -, hl⟩
    obtain rfl := Option.some.inj (hg.symm.trans hg')
    exact hlock ha hl
  | accessory id =>
    obtain ⟨x, hx, ha⟩ := heldBy_accessory_iff.1 h
    rintro ⟨x', hx', hl⟩
    obtain rfl := Option.some.inj (hx.symm.trans hx')
    exact hlock ha hl

theorem not_heldBy_of_heldBy (h : L.HeldBy a c) (hab : b ≠ a) : ¬ L.HeldBy b c := by
  intro hb
  obtain ⟨k, hk, ha⟩ := heldBy_iff.1 h
  obtain ⟨k', hk', hb⟩ := heldBy_iff.1 hb
  obtain rfl := Option.some.inj (hk.symm.trans hk')
  exact hab (Option.some.inj (hb.symm.trans ha))

/-- **Reserved routes do not overlap.** Let a loco have got a route at some time
after the start. As long as nobody gives up or seizes one of its segments and the
loco gives up no route, everything that the route claimed is there and the loco
holds it, and a route that claims one of these things is refused to every other
loco, whether it is reserved or locked, and is not even offered. Whatever else
happens makes no difference. -/
theorem reserved_route_excludes [Shuffling] (hL : L.Reachable) {r₁ : RouteId} {route₁ : Route}
    (hr₁ : L.routes.get? r₁ = some route₁) (hreserved : (L.reserveRoute r₁ a).1 = true)
    (hrun : (L.reserveRoute r₁ a).2.Reaches
      (fun call => ¬ call.Endangers a route₁.config.claims) M) :
    (∀ c ∈ route₁.config.claims, M.knows c = true ∧ M.HeldBy a c) ∧
      ∀ b ≠ a, ∀ r₂ route₂, M.routes.get? r₂ = some route₂ →
        (∃ c ∈ route₁.config.claims, c ∈ route₂.config.claims) →
          (M.reserveRoute r₂ b).1 = false ∧ (M.lockRoute r₂ b).1 = false ∧
            ∀ t turn asked, r₂ ∉ M.selectRoutes t b turn asked := by
  have hsecures : ∀ c ∈ route₁.config.claims, M.Sound ∧ M.Secures a c := by
    intro c hc
    have htakes := takesAll_reserveRoute hL.sound hr₁ a
    generalize L.reserveRoute r₁ a = result at htakes hreserved hrun
    cases htakes with
    | all hcs h => exact (h.secures hL.sound hcs hc).reaches (h.sound hL.sound hcs) hc hrun
    | nothing => cases hreserved
  refine ⟨fun c hc => ?_, fun b hab r₂ route₂ hr₂ hshared => ?_⟩
  · have hheld := (hsecures c hc).2.heldBy
    exact ⟨knows_of_heldBy hheld, hheld⟩
  · obtain ⟨c, hc₁, hc₂⟩ := hshared
    obtain ⟨hM, hsecured⟩ := hsecures c hc₁
    -- The one claim that both routes have is what the other loco fails on.
    have hno : ¬ M.Obtainable b c := not_obtainable_of_heldBy hsecured.heldBy hab
    refine ⟨?_, ?_, fun t turn asked hmem => ?_⟩
    · have htakes := takesAll_reserveRoute hM hr₂ b
      generalize M.reserveRoute r₂ b = result at htakes
      cases htakes with
      | all hcs => exact absurd (hcs c hc₂) hno
      | nothing => rfl
    · have hlocks := locksRoute_lockRoute hM.calm hr₂ b
      generalize M.lockRoute r₂ b = result at hlocks
      cases hlocks with
      | all hheld => exact absurd (hheld c hc₂) (not_heldBy_of_heldBy hsecured.heldBy hab)
      | nothing => rfl
    · obtain ⟨g, route, -, -, hr, hoffers⟩ := mem_selectRoutes.1 hmem
      obtain rfl := Option.some.inj (hr.symm.trans hr₂)
      exact hno (obtainable_of_offers hoffers c hc₂)

/-- Loco 7 reserves a route while loco 8 waits for another one to the same
destination. Then the first route is locked and deleted, a segment of it is
occupied, cleared and told to put releases off, its things are tried to be
deleted, and loco 8 asks for its route, gives it up and takes one segment of it.
The destination still belongs to loco 7. -/
theorem reserved_route_excludes_in_traffic :
    let mainline : RouteConfig :=
      { id := ⟨1⟩, name := "R1", origin := ⟨1⟩, destination := ⟨3⟩,
        items := [.accessory ⟨1⟩ .on, .segment ⟨2⟩] }
    let branch : RouteConfig :=
      { id := ⟨2⟩, name := "R2", origin := ⟨4⟩, destination := ⟨3⟩, items := [.segment ⟨5⟩] }
    let L := empty.run
      [.addSensor { id := ⟨1⟩, name := "S1", address := 1 },
       .addAccessory { id := ⟨1⟩, name := "A1", address := 1 },
       .addSegment { id := ⟨1⟩, name := "T1", length := 1, sensors := [] },
       .addSegment { id := ⟨2⟩, name := "T2", length := 1, sensors := [⟨1⟩] },
       .addSegment { id := ⟨3⟩, name := "T3", length := 1, sensors := [] },
       .addSegment { id := ⟨4⟩, name := "T4", length := 1, sensors := [] },
       .addSegment { id := ⟨5⟩, name := "T5", length := 1, sensors := [] },
       .addRoute mainline, .addRoute branch]
    let M := (L.reserveRoute ⟨1⟩ ⟨7⟩).2.run
      [.lockRoute ⟨1⟩ ⟨7⟩, .setSensorState ⟨1⟩ .occupied,
       .updateSegment
         { id := ⟨2⟩, name := "T2", length := 2, sensors := [⟨1⟩], releaseWhenFree := true },
       .setSensorState ⟨1⟩ .free, .deleteRoute ⟨1⟩, .deleteAccessory ⟨1⟩, .deleteSegment ⟨2⟩,
       .reserveRoute ⟨2⟩ ⟨8⟩, .releaseRoute ⟨2⟩ ⟨8⟩, .reserve ⟨5⟩ ⟨8⟩]
    (∀ c ∈ mainline.claims, M.knows c = true ∧ M.HeldBy ⟨7⟩ c) ∧ (M.reserveRoute ⟨2⟩ ⟨8⟩).1 = false ∧
      (M.lockRoute ⟨2⟩ ⟨8⟩).1 = false ∧ ⟨2⟩ ∉ M.selectRoutes ⟨4⟩ ⟨8⟩ false .doNotCare := by
  intro mainline branch L M
  have hL : L.Reachable := (Reachable.start .doNotCare .silent).run _
  have hr₁ : L.routes.get? ⟨1⟩ = some { config := mainline } := by decide
  have hrun : (L.reserveRoute ⟨1⟩ ⟨7⟩).2.Reaches (fun call => ¬ call.Endangers ⟨7⟩ mainline.claims) M :=
    Reaches.refl.run (by simp [Call.Endangers])
  obtain ⟨hkept, hothers⟩ := reserved_route_excludes hL hr₁ (by decide) hrun
  have hr₂ : M.routes.get? ⟨2⟩ = some { config := branch } := by decide
  obtain ⟨hreserve, hlock, hselect⟩ :=
    hothers ⟨8⟩ (by decide) ⟨2⟩ _ hr₂ ⟨.segment ⟨3⟩, by decide, by decide⟩
  exact ⟨hkept, hreserve, hlock, hselect _ _ _⟩

end Layout
end Interlocking
