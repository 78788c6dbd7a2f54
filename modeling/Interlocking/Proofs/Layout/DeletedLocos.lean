/-
What a loco holds when it is deleted.

A loco is not deleted while it holds a segment or is about to give one up. Accessories
are not looked at. They come with routes and go with routes, and the segments of a route
can be given up one by one, so a loco may be left with accessories only, and then it is
deleted with them.

Nothing is lost by that, because whoever gives accessories back need not be registered.
What the loco still holds is told by the history alone (`deleted_loco_holds`): an
accessory is held since a route over it was reserved, until a route over it is released.
Between the two nothing frees it, neither deleting the loco or the route nor loading.
-/
import Interlocking.Proofs.Layout.HeldAccessories
import Interlocking.Proofs.Layout.History
import Interlocking.Proofs.Layout.RouteExclusion

set_option autoImplicit false

namespace Interlocking.Layout

variable {L M : Layout} {l : LocoId} {id : AccessoryId} {r : RouteId}

/-! ## Taking an accessory and giving it back -/

/-- The step by which a loco gets an accessory: a route that runs over it is reserved. -/
def Gets (l : LocoId) (id : AccessoryId) (L : Layout) (next : Step) : Prop :=
  ∃ r, next = .call (.reserveRoute r l) ∧ L.RunsOver r id ∧ (L.reserveRoute r l).1 = true

/-- The step by which a loco gives an accessory back: a route that runs over it is
released. -/
def GivesBack (l : LocoId) (id : AccessoryId) (L : Layout) (next : Step) : Prop :=
  ∃ r, next = .call (.releaseRoute r l) ∧ L.RunsOver r id

theorem secures_accessory_iff : L.Secures l (.accessory id) ↔ L.HeldBy l (.accessory id) :=
  heldBy_accessory_iff.symm

theorem RunsOver.registered (h : L.RunsOver r id) : ∃ x, L.routes.get? r = some x := by
  obtain ⟨c, hc, -⟩ := h
  obtain ⟨x, hx, -⟩ := Option.map_eq_some_iff.1 hc
  exact ⟨x, hx⟩

/-- What a loco has after it got a route. -/
theorem heldBy_of_reserveRoute (hL : L.Sound) (hr : L.RunsOver r id)
    (hreserved : (L.reserveRoute r l).1 = true) :
    (L.reserveRoute r l).2.HeldBy l (.accessory id) := by
  obtain ⟨c, hc, o, hitem⟩ := hr
  obtain ⟨x, hx, rfl⟩ := Option.map_eq_some_iff.1 hc
  have htakes := takesAll_reserveRoute hL hx l
  generalize L.reserveRoute r l = result at htakes hreserved
  cases htakes with
  | all hcs h =>
    exact (h.secures hL hcs (mem_claims.2 (.inl ⟨_, hitem, rfl⟩))).heldBy
  | nothing => cases hreserved

/-- A route that does not run over an accessory takes it from nobody. -/
theorem Reachable.heldBy_of_releaseRoute (hL : L.Reachable) (hr : ¬ L.RunsOver r id)
    (hheld : L.HeldBy l (.accessory id)) : (L.releaseRoute r l).2.HeldBy l (.accessory id) := by
  cases hx : L.routes.get? r with
  | none =>
    rw [releaseRoute, hx]
    exact hheld
  | some x =>
    obtain ⟨a, ha, hl⟩ := heldBy_accessory_iff.1 hheld
    have hgiven := releaseHeld_givesUp hL.sound.calm l (x.config.items.map PathItem.claim)
    have hclaim : .accessory id ∉ x.config.items.map PathItem.claim := by
      rw [List.mem_map]
      rintro ⟨item, hitem, heq⟩
      cases item with
      | segment t => cases heq
      | accessory id' o =>
        cases heq
        exact hr ⟨x.config, by rw [config?, hx, Option.map_some], o, hitem⟩
    rw [hL.releaseRoute_eq hx l]
    refine heldBy_accessory_iff.2 ⟨a, ?_, hl⟩
    rw [hgiven.accessories, ha, Option.map_some, if_neg hclaim]

/-! ## One step -/

/-- Loading brings no accessory to anybody. -/
theorem heldBy_accessory_of_load {σ : Type} [Store σ] (hL : L.Sound) (s : σ)
    (hheld : (L.load s).2.HeldBy l (.accessory id)) : L.HeldBy l (.accessory id) := by
  refine (load_keeps (P := fun M => M.Sound ∧
    (M.HeldBy l (.accessory id) → L.HeldBy l (.accessory id))) ?_ ?_ s ⟨hL, fun h => h⟩).2 hheld
  · rintro key f M ⟨hsound, hM⟩
    exact ⟨hsound.addStored key f,
      fun hadded => hM (hsound.heldBy_accessory_of_addStored key f hadded)⟩
  · rintro n M ⟨hsound, hM⟩
    exact ⟨⟨hsound.calm, hsound.segments⟩, hM⟩

/-- Whoever holds an accessory after a step has just got it, or held it before. -/
theorem heldBy_accessory_of_step (hL : L.Sound) {next : Step}
    (hheld : (L.step next).HeldBy l (.accessory id)) :
    Gets l id L next ∨ L.HeldBy l (.accessory id) := by
  cases next with
  | call c =>
    rcases heldBy_accessory_of_call hL c hheld with hbefore | ⟨r, rfl, hr⟩
    · exact .inr hbefore
    · -- A route that was refused has brought nothing.
      obtain ⟨x, hx⟩ := hr.registered
      have htakes := takesAll_reserveRoute hL hx l
      simp only [step, call, answered] at hheld
      cases hresult : L.reserveRoute r l with
      | mk reserved M =>
        rw [hresult] at htakes hheld
        cases htakes with
        | all => exact .inl ⟨r, rfl, hr, by rw [hresult]⟩
        | nothing => exact .inr hheld
  | load s => exact .inr (heldBy_accessory_of_load hL s hheld)
  | elsewhere station notices => exact .inr hheld

/-- Whoever holds an accessory keeps it unless the step gives it back. -/
theorem Reachable.heldBy_accessory_step (hL : L.Reachable) {next : Step}
    (hheld : L.HeldBy l (.accessory id)) (hkeeps : ¬ GivesBack l id L next) :
    (L.step next).HeldBy l (.accessory id) := by
  -- Of all steps only the release of a route can take an accessory from its holder.
  have hreaches : ∀ {M}, L.Reaches (fun c => ¬ c.Endangers l [.accessory id]) M →
      M.HeldBy l (.accessory id) := fun h =>
    ((secures_accessory_iff.2 hheld).reaches hL.sound List.mem_cons_self h).2.heldBy
  cases next with
  | call c =>
    by_cases hc : ∃ r, c = .releaseRoute r l
    · obtain ⟨r, rfl⟩ := hc
      exact hL.heldBy_of_releaseRoute (fun hr => hkeeps ⟨r, rfl, hr⟩) hheld
    · refine hreaches (Reaches.refl.call fun hendangers => hc ?_)
      cases c with
      | releaseRoute r l' => exact ⟨r, congrArg _ hendangers⟩
      | release | releaseForce | reserveForce => simp [Call.Endangers] at hendangers
      | _ => exact hendangers.elim
  | load s => exact hreaches (Reaches.refl.load s)
  | elsewhere station notices => exact hreaches (Reaches.refl.elsewhere station notices)

/-- **One step.** An accessory is held after a step if the step gets it, or if it was held
before and the step does not give it back. -/
theorem Reachable.heldBy_accessory_step_iff (hL : L.Reachable) (next : Step) :
    (L.step next).HeldBy l (.accessory id) ↔
      Gets l id L next ∨ L.HeldBy l (.accessory id) ∧ ¬ GivesBack l id L next := by
  constructor
  · intro hheld
    refine (heldBy_accessory_of_step hL.sound hheld).imp_right fun hbefore => ⟨hbefore, ?_⟩
    -- Had the step given the accessory back, it would be free now.
    rintro ⟨r, rfl, hr⟩
    obtain ⟨k, hk, hl⟩ := heldBy_iff.1 hheld
    rw [Layout.step, Layout.call, answered, (hL.free_of_releaseRoute hr hbefore).2] at hk
    cases Option.some.inj hk
    cases hl
  · rintro (⟨r, rfl, hr, hreserved⟩ | ⟨hbefore, hkeeps⟩)
    · exact heldBy_of_reserveRoute hL.sound hr hreserved
    · exact hL.heldBy_accessory_step hbefore hkeeps

/-! ## A history -/

/-- **A held accessory** is one that was got and not given back since. -/
theorem Reachable.heldBy_accessory_iff_since (hL : L.Reachable)
    (hfree : ¬ L.HeldBy l (.accessory id)) (steps : List Step) :
    (L.follow steps).HeldBy l (.accessory id) ↔ Since (Gets l id) (GivesBack l id) L steps := by
  induction steps using List.reverseRecOn with
  | nil => exact iff_of_false hfree fun ⟨n, hn, _⟩ => absurd hn.lt (Nat.not_lt_zero n)
  | append_singleton steps next ih =>
    rw [follow_concat, (hL.follow steps).heldBy_accessory_step_iff, since_concat_iff, ih]

/-- A loco is deleted when no segment has anything to do with it. Nothing else changes. -/
theorem deleteLoco_eq_ok (h : L.deleteLoco l = (.ok (), M)) :
    (∀ t g, L.segments.get? t = some g → g.lock.holder? ≠ some l ∧ g.pendingRelease ≠ some l) ∧
      M = { L with locos := L.locos.erase l } := by
  rw [deleteLoco] at h
  split at h
  · cases h
  split at h
  · cases h
  next hfree =>
    refine ⟨fun t g hg => ?_, (Prod.mk.inj h).2.symm⟩
    rw [List.any_eq_true] at hfree
    push Not at hfree
    simpa using hfree g ((Registry.mem_values_iff _ _).2 ⟨t, hg⟩)

/-- **What a deleted loco holds.** When a loco is deleted, at the end of whatever history,
then it neither holds a segment nor is about to give one up. It holds an accessory exactly
if some step of the history reserved a route that runs over the accessory for it, and no
later step released a route that runs over the accessory on its behalf. -/
theorem deleted_loco_holds (approach : Approach) (station : CommandStation) (steps : List Step)
    (l : LocoId) (M : Layout) :
    let start : Layout := { defaultApproach := approach, station := station }
    (start.follow steps).deleteLoco l = (.ok (), M) →
      (∀ t g, M.segments.get? t = some g → g.lock.holder? ≠ some l ∧ g.pendingRelease ≠ some l) ∧
      ∀ id, M.HeldBy l (.accessory id) ↔ Since (Gets l id) (GivesBack l id) start steps := by
  intro start hdeleted
  have hstart : start.Reachable := .start approach station
  obtain ⟨hsegments, rfl⟩ := deleteLoco_eq_ok hdeleted
  refine ⟨hsegments, fun id => ?_⟩
  have hfree : ¬ start.HeldBy l (.accessory id) := fun hheld => by
    obtain ⟨a, ha, -⟩ := heldBy_accessory_iff.1 hheld
    cases ha
  exact hstart.heldBy_accessory_iff_since hfree steps

/-- Loco 7 gets both accessories with one route. It gives one of them back with another
route that it never reserved, and it gives up the segment alone. The first route is deleted
and then the loco, with the other accessory. -/
theorem deleted_loco_holds_one_of_two :
    let route (r : UInt32) (items : List PathItem) : RouteConfig :=
      { id := ⟨r⟩, name := "R", origin := ⟨1⟩, destination := ⟨2⟩, items := items }
    let calls : List Call :=
      [.addAccessory { id := ⟨1⟩, name := "A1", address := 1 },
       .addAccessory { id := ⟨2⟩, name := "A2", address := 2 },
       .addSegment { id := ⟨1⟩, name := "T1", length := 1, sensors := [] },
       .addSegment { id := ⟨2⟩, name := "T2", length := 1, sensors := [] },
       .addRoute (route 1 [.accessory ⟨1⟩ .on, .accessory ⟨2⟩ .on]),
       .addRoute (route 2 [.accessory ⟨2⟩ .off]), .addLoco { id := ⟨7⟩, name := "L7" },
       .reserveRoute ⟨1⟩ ⟨7⟩, .releaseRoute ⟨2⟩ ⟨7⟩, .release ⟨2⟩ ⟨7⟩, .deleteRoute ⟨1⟩]
    let start : Layout := { defaultApproach := .doNotCare, station := .silent }
    let steps := calls.map Step.call
    ∃ M, (start.follow steps).deleteLoco ⟨7⟩ = (.ok (), M) ∧
      (∀ t g, M.segments.get? t = some g →
        g.lock.holder? ≠ some ⟨7⟩ ∧ g.pendingRelease ≠ some ⟨7⟩) ∧
      Since (Gets ⟨7⟩ ⟨1⟩) (GivesBack ⟨7⟩ ⟨1⟩) start steps ∧
      ¬ Since (Gets ⟨7⟩ ⟨2⟩) (GivesBack ⟨7⟩ ⟨2⟩) start steps := by
  intro route calls start steps
  have haccepted : ((start.follow steps).deleteLoco ⟨7⟩).1 = .ok () := by decide
  have hfirst : ((start.follow steps).deleteLoco ⟨7⟩).2.lockOf? (.accessory ⟨1⟩) =
      some (.reserved ⟨7⟩) := by decide
  have hsecond : ((start.follow steps).deleteLoco ⟨7⟩).2.lockOf? (.accessory ⟨2⟩) =
      some .free := by decide
  cases hdeleted : (start.follow steps).deleteLoco ⟨7⟩ with
  | mk answer M =>
    rw [hdeleted] at haccepted hfirst hsecond
    dsimp only at haccepted hfirst hsecond
    subst haccepted
    obtain ⟨hsegments, haccessories⟩ := deleted_loco_holds .doNotCare .silent steps ⟨7⟩ M hdeleted
    refine ⟨M, rfl, hsegments, (haccessories ⟨1⟩).1 (.inl hfirst), fun hsince => ?_⟩
    obtain ⟨k, hk, hl⟩ := heldBy_iff.1 ((haccessories ⟨2⟩).2 hsince)
    obtain rfl := Option.some.inj (hsecond.symm.trans hk)
    cases hl

/-- A loco has given up the destination of its route, which is the only segment that it
held. It is deleted, and the accessory of the route is still its own. -/
theorem holds_accessory_after_deleteLoco :
    let calls : List Call :=
      [.addAccessory { id := ⟨1⟩, name := "A1", address := 1 },
       .addSegment { id := ⟨1⟩, name := "T1", length := 1, sensors := [] },
       .addSegment { id := ⟨2⟩, name := "T2", length := 1, sensors := [] },
       .addRoute { id := ⟨1⟩, name := "R1", origin := ⟨1⟩, destination := ⟨2⟩,
                   items := [.accessory ⟨1⟩ .on] },
       .addLoco { id := ⟨7⟩, name := "L7" }, .reserveRoute ⟨1⟩ ⟨7⟩, .release ⟨2⟩ ⟨7⟩]
    let L := empty.run calls
    L.Reachable ∧ (L.deleteLoco ⟨7⟩).1 = .ok () ∧
      (L.deleteLoco ⟨7⟩).2.HeldBy ⟨7⟩ (.accessory ⟨1⟩) := by
  intro calls L
  exact ⟨(Reachable.start .doNotCare .silent).run calls, by decide, .inl (by decide)⟩

end Interlocking.Layout
