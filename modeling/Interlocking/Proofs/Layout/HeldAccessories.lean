/-
Whoever holds an accessory can give it back.

An accessory is taken and given back through routes only, so a loco that holds one
needs a route to get rid of it: a registered route that runs over the accessory.
There is one in every layout of a history exactly as long as the history deletes no
route that is the last one to run over an accessory which somebody holds
(`accessories_stay_releasable_iff`). Nothing stops such a deletion: accessories,
segments and locos are not deleted while they are in use, but a route is.

An accessory is held after an operation only if it was held before, or if it is on
the route that the operation reserved, and a route goes only when it is deleted.
That is the whole of the invariant.
-/
import Interlocking.Proofs.Layout.RouteRegistry
import Interlocking.Proofs.Layout.RouteRelease

set_option autoImplicit false

namespace Interlocking

/-! ## One accessory -/

namespace Accessory

variable {a : Accessory} {l : LocoId}

/-- A loco that holds an accessory after a call held it before, unless it was the call
that reserved it. -/
theorem holder_of_call {c : Call} (hc : c ≠ .reserve l)
    (h : (a.call c).2.lock.holder? = some l) : a.lock.holder? = some l := by
  cases c with
  | reserve l' =>
    simp only [call] at h
    split at h
    next grant a' htaken =>
      cases takes_of_tryReserve htaken with
      | new =>
        obtain rfl : l' = l := Option.some.inj h
        exact absurd rfl hc
      | held => exact h
    next => exact h
  | lock l' =>
    simp only [call] at h
    split at h
    next newly a' hlocked =>
      obtain ⟨k, hk, hpair⟩ := Option.map_eq_some_iff.1 hlocked
      obtain ⟨hl, rfl⟩ := Lock.lock_eq_some_iff.1 hk
      obtain rfl := (Prod.mk.inj hpair).2
      exact hl.trans h
    next => exact h
  | unlock l' =>
    simp only [call, step] at h
    split at h
    next k hk =>
      obtain ⟨hl, rfl⟩ := Lock.unlock_eq_some_iff.1 hk
      exact (congrArg Lock.holder? hl).trans h
    next => exact h
  | release l' =>
    simp only [call, step] at h
    split at h
    next k hk =>
      obtain ⟨-, rfl⟩ := Lock.release_eq_some_iff.1 hk
      cases h
    next => exact h
  | unreserve l' =>
    simp only [call, step] at h
    split at h
    next k hk =>
      obtain ⟨-, rfl⟩ := Lock.unreserve_eq_some_iff.1 hk
      cases h
    next => exact h
  | setOutput o => exact h

theorem holder_of_run {calls : List Call} (hcalls : ∀ c ∈ calls, c ≠ .reserve l)
    (h : (a.run calls).lock.holder? = some l) : a.lock.holder? = some l := by
  induction calls generalizing a with
  | nil => exact h
  | cons c calls ih =>
    have hnext : (a.call c).2.lock.holder? = some l :=
      ih (fun c' hc' => hcalls c' (List.mem_cons_of_mem _ hc')) h
    exact holder_of_call (hcalls c List.mem_cons_self) hnext

end Accessory

namespace Layout

variable {L M : Layout} {P : Deed → Prop} {id : AccessoryId} {l : LocoId} {r : RouteId}

/-! ## Who holds an accessory -/

theorem Called.heldBy_accessory (h : L.Called P M) (hP : ¬ P (.accessory id (.reserve l)))
    (hheld : M.HeldBy l (.accessory id)) : L.HeldBy l (.accessory id) := by
  obtain ⟨a', ha', hl⟩ := heldBy_accessory_iff.1 hheld
  obtain ⟨calls, hcalls, hsame⟩ := h.accessories id
  obtain ⟨a, ha, rfl⟩ := Option.map_eq_some_iff.1 (hsame.symm.trans ha')
  have hno : ∀ c ∈ calls, c ≠ .reserve l := fun c hc heq => hP (heq ▸ hcalls c hc)
  exact heldBy_accessory_iff.2 ⟨a, ha, Accessory.holder_of_run hno hl⟩

/-- An accessory that a loco has got was got by a call that reserves it. -/
theorem Does.heldBy_accessory (h : L.Does P M) (hP : ¬ P (.accessory id (.reserve l)))
    (hheld : M.HeldBy l (.accessory id)) : L.HeldBy l (.accessory id) := by
  cases h with
  | calls h => exact h.heldBy_accessory hP hheld
  | addsSegment h | deletesSegment h => exact h.heldBy_accessory hP hheld
  | addsAccessory c hnew =>
    obtain ⟨a, ha, hl⟩ := heldBy_accessory_iff.1 hheld
    dsimp only at ha
    rw [Registry.get?_insert] at ha
    split at ha
    · -- A new accessory is free.
      obtain rfl := Option.some.inj ha
      cases hl
    · exact heldBy_accessory_iff.2 ⟨a, ha, hl⟩
  | deletesAccessory =>
    obtain ⟨a, ha, hl⟩ := heldBy_accessory_iff.1 hheld
    dsimp only at ha
    rw [Registry.get?_erase] at ha
    split at ha
    · cases ha
    · exact heldBy_accessory_iff.2 ⟨a, ha, hl⟩
  | addsRoute | deletesRoute =>
    rw [modifySegments_eq] at hheld
    exact hheld

/-! ## Routes that run over an accessory -/

/-- The route is registered and needs the accessory. -/
def RunsOver (L : Layout) (r : RouteId) (id : AccessoryId) : Prop :=
  ∃ c, L.config? r = some c ∧ ∃ o, .accessory id o ∈ c.items

theorem RunsOver.of_config (h : L.RunsOver r id) (hconfig : M.config? r = L.config? r) :
    M.RunsOver r id := by
  rwa [RunsOver, hconfig]

theorem RunsOver.insert {x : Route} (h : L.RunsOver r id) (hnew : L.routes.get? x.config.id = none)
    (hroutes : M.routes = L.routes.insert x.config.id x) : M.RunsOver r id := by
  refine h.of_config ?_
  obtain ⟨c, hc, -⟩ := h
  have hne : r ≠ x.config.id := by
    rintro rfl
    rw [config?, hnew] at hc
    cases hc
  rw [config?, hroutes, Registry.get?_insert_of_ne _ hne, config?]

/-- A route runs over its accessories until it is deleted. -/
theorem RunsOver.call (h : L.RunsOver r id) (hL : L.Sound) {c : Call} (hc : c ≠ .deleteRoute r) :
    (L.call c).2.RunsOver r id := by
  have hregisters := registers_call hL c
  generalize L.call c = result at hregisters
  cases hregisters with
  | nothing hsame => exact h.of_config (by rw [config?, hsame.routes, config?])
  | adds config _ hnew hroutes => exact h.insert (x := { config := config }) hnew hroutes
  | @deletes _ M r' x hcall hr' hroutes =>
    have hne : r ≠ r' := by
      rintro rfl
      exact hc hcall
    refine h.of_config ?_
    rw [config?, hroutes, Registry.get?_erase, if_neg hne, config?]
  | @uses M r' x l' _ hr' hroutes =>
    refine h.of_config ?_
    rw [config?, hroutes, Registry.get?_insert]
    split
    next heq =>
      subst heq
      rw [config?, hr', Option.map_some, Option.map_some]
    next => rw [config?]

theorem RunsOver.addStored (h : L.RunsOver r id) (hcalm : L.reaction = none) (key : EntityKey)
    (f : Fields) : (L.addStored key f).2.RunsOver r id := by
  have hstores := stores_addStored hcalm key f
  generalize (L.addStored key f).2 = M at hstores
  cases hstores with
  | nothing hsame => exact h.of_config (by rw [config?, hsame.routes, config?])
  | adds _ _ hnew hroutes => exact h.insert hnew hroutes

/-- Reserving a route is the only way to get an accessory, and it gets those that the
route runs over. -/
theorem heldBy_accessory_of_call (hL : L.Sound) (c : Call)
    (hheld : (L.call c).2.HeldBy l (.accessory id)) :
    L.HeldBy l (.accessory id) ∨ ∃ r, c = .reserveRoute r l ∧ L.RunsOver r id := by
  by_cases hc : ∃ r, c = .reserveRoute r l
  · obtain ⟨r, rfl⟩ := hc
    cases hr : L.routes.get? r with
    | none =>
      simp only [call, answered, reserveRoute, hr] at hheld
      exact .inl hheld
    | some x =>
      have htakes := takesAll_reserveRoute hL hr l
      simp only [call, answered] at hheld
      generalize L.reserveRoute r l = result at htakes hheld
      cases htakes with
      | nothing => exact .inl hheld
      | all hcs h =>
        -- All claims of the route were taken, and nothing but them.
        obtain ⟨a', ha', hl⟩ := heldBy_accessory_iff.1 hheld
        rw [h.accessories] at ha'
        obtain ⟨a, ha, rfl⟩ := Option.map_eq_some_iff.1 ha'
        by_cases hclaim : .accessory id ∈ x.config.claims
        · refine .inr ⟨r, rfl, x.config, by rw [config?, hr, Option.map_some], ?_⟩
          rcases mem_claims.1 hclaim with ⟨item, hitem, heq⟩ | heq
          · cases item with
            | segment t => cases heq
            | accessory id' o =>
              cases heq
              exact ⟨o, hitem⟩
          · cases heq
        · rw [if_neg hclaim] at hl
          exact .inl (heldBy_accessory_iff.2 ⟨a, ha, hl⟩)
  · refine .inl ((does_call hL c).heldBy_accessory (fun hmakes => hc ?_) hheld)
    cases hmakes with
    | reserveAccessory r => exact ⟨r, rfl⟩

/-- Nobody holds an accessory that was stored. -/
theorem Sound.heldBy_accessory_of_addStored (hL : L.Sound) (key : EntityKey) (f : Fields)
    (hheld : (L.addStored key f).2.HeldBy l (.accessory id)) : L.HeldBy l (.accessory id) := by
  obtain ⟨N, hadds, hstamps⟩ := does_addStored (P := fun _ => False) hL.calm key f
  have hadded : N.HeldBy l (.accessory id) := hstamps.heldBy_accessory (fun hd => hd) hheld
  exact hadds.heldBy_accessory (fun hd => hd) hadded

/-! ## Giving accessories back -/

/-- Every accessory that a loco holds can be given back: there is a route that runs
over it, and when the loco releases that route, the accessory is free. -/
def AccessoriesReleasable (L : Layout) : Prop :=
  ∀ id l, L.HeldBy l (.accessory id) → ∃ r, L.RunsOver r id ∧ (L.releaseRoute r l).1 = true ∧
    (L.releaseRoute r l).2.lockOf? (.accessory id) = some .free

/-- Somebody holds an accessory that no route but this one runs over. -/
def Strands (L : Layout) (r : RouteId) : Prop :=
  ∃ id l, L.HeldBy l (.accessory id) ∧ ∀ r', L.RunsOver r' id → r' = r

/-- Releasing a route that runs over an accessory gives the accessory back. -/
theorem Reachable.free_of_releaseRoute (hL : L.Reachable) (hr : L.RunsOver r id)
    (hheld : L.HeldBy l (.accessory id)) : (L.releaseRoute r l).1 = true ∧
      (L.releaseRoute r l).2.lockOf? (.accessory id) = some .free := by
  obtain ⟨c, hc, o, hitem⟩ := hr
  obtain ⟨x, hx, rfl⟩ := Option.map_eq_some_iff.1 hc
  obtain ⟨a, ha, hl⟩ := heldBy_accessory_iff.1 hheld
  have hgiven := releaseHeld_givesUp hL.sound.calm l (x.config.items.map PathItem.claim)
  have hclaim : .accessory id ∈ x.config.items.map PathItem.claim :=
    List.mem_map.2 ⟨_, hitem, rfl⟩
  rw [hL.releaseRoute_eq hx l]
  refine ⟨rfl, ?_⟩
  rw [lockOf?, hgiven.accessories, ha, Option.map_some, Option.map_some, if_pos hclaim,
    Accessory.givenUp, if_pos hl]

theorem Reachable.accessoriesReleasable_iff (hL : L.Reachable) : L.AccessoriesReleasable ↔
    ∀ id l, L.HeldBy l (.accessory id) → ∃ r, L.RunsOver r id := by
  constructor
  · intro h id l hheld
    obtain ⟨r, hr, -⟩ := h id l hheld
    exact ⟨r, hr⟩
  · intro h id l hheld
    obtain ⟨r, hr⟩ := h id l hheld
    exact ⟨r, hr, hL.free_of_releaseRoute hr hheld⟩

/-! ## One step -/

/-- An operation that strands nothing. -/
theorem runsOver_of_call (hL : L.Sound)
    (h : ∀ id l, L.HeldBy l (.accessory id) → ∃ r, L.RunsOver r id) {c : Call}
    (hc : ∀ r, c = .deleteRoute r → ¬ L.Strands r)
    (hheld : (L.call c).2.HeldBy l (.accessory id)) : ∃ r, (L.call c).2.RunsOver r id := by
  rcases heldBy_accessory_of_call hL c hheld with hbefore | ⟨r, rfl, hr⟩
  · by_cases hdeletes : ∃ r, c = .deleteRoute r
    · obtain ⟨r, rfl⟩ := hdeletes
      -- There is another route that runs over the accessory.
      have hother : ∃ r', L.RunsOver r' id ∧ r' ≠ r := by
        by_contra hnone
        push Not at hnone
        exact hc r rfl ⟨id, l, hbefore, hnone⟩
      obtain ⟨r', hr', hne⟩ := hother
      refine ⟨r', hr'.call hL ?_⟩
      rintro ⟨⟩
      exact hne rfl
    · obtain ⟨r, hr⟩ := h id l hbefore
      exact ⟨r, hr.call hL fun heq => hdeletes ⟨r, heq⟩⟩
  · exact ⟨r, hr.call hL nofun⟩

theorem runsOver_of_load {σ : Type} [Store σ] (hL : L.Sound)
    (h : ∀ id l, L.HeldBy l (.accessory id) → ∃ r, L.RunsOver r id) (s : σ) :
    ∀ id l, (L.load s).2.HeldBy l (.accessory id) → ∃ r, (L.load s).2.RunsOver r id := by
  refine (load_keeps (P := fun M => M.Sound ∧
    ∀ id l, M.HeldBy l (.accessory id) → ∃ r, M.RunsOver r id) ?_ ?_ s ⟨hL, h⟩).2
  · rintro key f M ⟨hsound, hM⟩
    refine ⟨hsound.addStored key f, fun id l hheld => ?_⟩
    obtain ⟨r, hr⟩ := hM id l (hsound.heldBy_accessory_of_addStored key f hheld)
    exact ⟨r, hr.addStored hsound.calm key f⟩
  · rintro n M ⟨hsound, hM⟩
    exact ⟨⟨hsound.calm, hsound.segments⟩, hM⟩

/-- Deleting the last route that runs over a held accessory. -/
theorem not_strands_of_deleteRoute
    (hbefore : ∀ id l, L.HeldBy l (.accessory id) → ∃ r, L.RunsOver r id)
    (hafter : ∀ id l, (L.deleteRoute r).2.HeldBy l (.accessory id) →
      ∃ r', (L.deleteRoute r).2.RunsOver r' id) : ¬ L.Strands r := by
  rintro ⟨id, l, hheld, honly⟩
  obtain ⟨r', hr'⟩ := hbefore id l hheld
  obtain rfl := honly r' hr'
  obtain ⟨c, hc, -⟩ := hr'
  obtain ⟨x, hx, -⟩ := Option.map_eq_some_iff.1 hc
  have hdeleted : (L.deleteRoute r').2 = { L with
      routes := L.routes.erase r', segments := (L.deleteRoute r').2.segments } := by
    simp only [deleteRoute, hx]
    rw [modifySegments_eq]
  rw [hdeleted] at hafter
  -- The deletion frees nothing, so a route must be left, and it was there before.
  obtain ⟨r'', c', hc', hitem⟩ := hafter id l hheld
  rw [config?, Registry.get?_erase] at hc'
  split at hc'
  · cases hc'
  next hne => exact hne (honly r'' ⟨c', hc', hitem⟩)

theorem accessoriesReleasable_step_iff (hL : L.Reachable) (h : L.AccessoriesReleasable)
    (next : Step) : (L.step next).AccessoriesReleasable ↔
      ∀ r, next = .call (.deleteRoute r) → ¬ L.Strands r := by
  rw [hL.accessoriesReleasable_iff] at h
  rw [(hL.step next).accessoriesReleasable_iff]
  cases next with
  | call c =>
    constructor
    · rintro hafter r ⟨⟩
      exact not_strands_of_deleteRoute h hafter
    · intro hc id l hheld
      exact runsOver_of_call hL.sound h (fun r heq => hc r (congrArg Step.call heq)) hheld
  | load s => exact iff_of_true (runsOver_of_load hL.sound h s) nofun
  | elsewhere station notices => exact iff_of_true h nofun

/-! ## A history -/

/-- **Held accessories.** Throughout a history that begins without objects, every
accessory that a loco holds can be given back, exactly if no step of the history
deletes a route while somebody holds an accessory that no other route runs over. -/
theorem accessories_stay_releasable_iff (approach : Approach) (station : CommandStation)
    (steps : List Step) :
    let L : Layout := { defaultApproach := approach, station := station }
    L.Throughout AccessoriesReleasable steps ↔
      L.Each (fun M next => ∀ r, next = .call (.deleteRoute r) → ¬ M.Strands r) steps := by
  intro L
  have hstart : L.AccessoriesReleasable := by
    intro id l hheld
    obtain ⟨a, ha, -⟩ := heldBy_accessory_iff.1 hheld
    cases ha
  exact throughout_iff (Reachable.start approach station) hstart
    (fun M hM h next => accessoriesReleasable_step_iff hM h next) steps

/-- A route is deleted between reserving and releasing it. Its accessory stays with the
loco, and there is no route left to release. -/
theorem not_releasable_after_deleteRoute :
    let calls : List Call :=
      [.addAccessory { id := ⟨1⟩, name := "A1", address := 1 },
       .addSegment { id := ⟨1⟩, name := "T1", length := 1, sensors := [] },
       .addSegment { id := ⟨2⟩, name := "T2", length := 1, sensors := [] },
       .addRoute { id := ⟨1⟩, name := "R1", origin := ⟨1⟩, destination := ⟨2⟩,
                   items := [.accessory ⟨1⟩ .on] },
       .reserveRoute ⟨1⟩ ⟨7⟩, .deleteRoute ⟨1⟩]
    let L := empty.run calls
    L.lockOf? (.accessory ⟨1⟩) = some (.reserved ⟨7⟩) ∧ ¬ L.AccessoriesReleasable := by
  intro calls L
  have hreserved : L.lockOf? (.accessory ⟨1⟩) = some (.reserved ⟨7⟩) := by decide
  have hgone : L.routes = .empty := by decide
  refine ⟨hreserved, fun h => ?_⟩
  obtain ⟨r, ⟨c, hc, -⟩, -⟩ := h ⟨1⟩ ⟨7⟩ (.inl hreserved)
  rw [config?, hgone] at hc
  cases hc

end Layout
end Interlocking
