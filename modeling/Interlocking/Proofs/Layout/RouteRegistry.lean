/-
What an operation does to the registry of routes, and to the count of their uses.

`Does` lists what an operation does to things that can be held, and there routes
matter only as far as their configurations go. Here the routes are told as they are,
with their stamps, and together with the count that the stamps are taken from
(`Registers`, `registers_call`). Only three operations touch them: a route is added, a
route is deleted, or a route is locked and gets the next count as its stamp. Loading
adds routes with the stamps that were stored, and counts on only at its end
(`loads_load`).
-/
import Interlocking.Proofs.Layout.Adding
import Interlocking.Proofs.Layout.History
import Interlocking.Proofs.Layout.RouteReservation

set_option autoImplicit false

namespace Interlocking

/-- A route that was read has the id that it was looked for under. -/
theorem Route.id_of_ofFields {id : RouteId} {f : Fields} {x : Route}
    (h : Route.ofFields id f = .ok x) : x.config.id = id := by
  unfold Route.ofFields at h
  simp only [bind, Except.bind, pure, Except.pure] at h
  -- Each field is read in turn, and the first error ends it.
  repeat' split at h
  all_goals cases h
  rfl

namespace Layout

variable {L M : Layout} {r : RouteId} {x : Route}

/-- The routes and the count of uses are the same. -/
structure SameRoutes (L M : Layout) : Prop where
  routes : M.routes = L.routes
  useCounter : M.useCounter = L.useCounter

/-! ## Operations that have nothing to do with routes -/

theorem sameRoutes_onSegment {α : Type} (hcalm : L.reaction = none) (t : SegmentId) (unknown : α)
    (change : Segment → Segment.Outcome α) : L.SameRoutes (L.onSegment t unknown change).2 := by
  obtain ⟨segments, notices, h⟩ := onSegment_eq hcalm t unknown change
  rw [h]
  exact ⟨rfl, rfl⟩

theorem sameRoutes_modifySegments (ids : List SegmentId) (change : Segment → Segment) :
    L.SameRoutes (L.modifySegments ids change) := by
  rw [modifySegments_eq]
  exact ⟨rfl, rfl⟩

theorem Aside.sameRoutes (h : L.Aside M) : L.SameRoutes M := by
  rw [h]
  exact ⟨rfl, rfl⟩

theorem addSegment_eq (hcalm : L.reaction = none) (c : SegmentConfig) :
    ∃ sensors segments notices, (L.addSegment c).2 =
      { L with sensors := sensors, segments := segments, notices := notices } := by
  unfold addSegment
  split
  · exact ⟨_, _, _, rfl⟩
  split
  · exact ⟨_, _, _, rfl⟩
  obtain ⟨sensors, hattached⟩ := attachAll_eq (L := L) c.id c.sensors
  generalize L.attachAll c.id c.sensors = attached at hattached
  obtain ⟨_ | states, M⟩ := attached
  · subst hattached
    exact ⟨_, _, _, rfl⟩
  · subst hattached
    dsimp only
    rw [notifyAll_of_calm (L := { L with sensors := sensors }) hcalm]
    exact ⟨_, _, _, rfl⟩

theorem sameRoutes_addSegment (hcalm : L.reaction = none) (c : SegmentConfig) :
    L.SameRoutes (L.addSegment c).2 := by
  obtain ⟨sensors, segments, notices, hadded⟩ := addSegment_eq hcalm c
  rw [hadded]
  exact ⟨rfl, rfl⟩

theorem sameRoutes_updateSegment (hcalm : L.reaction = none) (c : SegmentConfig) :
    L.SameRoutes (L.updateSegment c).2 := by
  have hupdates := updates hcalm c
  generalize L.updateSegment c = result at hupdates
  cases hupdates with
  | refused e _ => exact ⟨rfl, rfl⟩
  | done h =>
    rw [h.rest]
    exact ⟨rfl, rfl⟩

theorem sameRoutes_deleteSegment (t : SegmentId) : L.SameRoutes (L.deleteSegment t).2 := by
  unfold deleteSegment
  split
  · exact ⟨rfl, rfl⟩
  · split
    · exact ⟨rfl, rfl⟩
    · rw [detachAll_eq]
      exact ⟨rfl, rfl⟩

theorem sameRoutes_setSensorState (hcalm : L.reaction = none) (s : SensorId) (state : Occupancy) :
    L.SameRoutes (L.setSensorState s state).2 := by
  unfold setSensorState
  split
  · exact ⟨rfl, rfl⟩
  next x _ =>
  dsimp only
  split
  · exact ⟨rfl, rfl⟩
  next t _ =>
  have htold := sameRoutes_onSegment
    (L := { L with sensors := L.sensors.insert s (x.report state fun owner => owner).2 })
    hcalm t true (Segment.setSensorState s state)
  exact ⟨htold.routes, htold.useCounter⟩

theorem sameRoutes_reserveRoute (hL : L.Sound) (r : RouteId) (l : LocoId) :
    L.SameRoutes (L.reserveRoute r l).2 := by
  cases hr : L.routes.get? r with
  | none =>
    rw [reserveRoute, hr]
    exact ⟨rfl, rfl⟩
  | some x =>
    have htakes := takesAll_reserveRoute hL hr l
    generalize L.reserveRoute r l = result at htakes
    cases htakes with
    | all hcs h =>
      rw [h.rest]
      exact ⟨rfl, rfl⟩
    | nothing => exact ⟨rfl, rfl⟩

theorem sameRoutes_releaseRoute (hcalm : L.reaction = none) (r : RouteId) (l : LocoId) :
    L.SameRoutes (L.releaseRoute r l).2 := by
  unfold releaseRoute
  split
  · exact ⟨rfl, rfl⟩
  · dsimp only
    split
    · obtain ⟨segments, accessories, notices, h⟩ := releaseHeld_eq hcalm l _
      rw [h]
      exact ⟨rfl, rfl⟩
    · exact ⟨rfl, rfl⟩

/-! ## Every operation -/

/-- What an operation does to the routes and the count of uses, and what it answers
where that matters. -/
inductive Registers (L : Layout) (c : Call) : Answer × Layout → Prop where
  | nothing {answer : Answer} {M : Layout} (h : L.SameRoutes M)
      (hidle : ∀ r l, c = .lockRoute r l → answer = .accepted false) : Registers L c (answer, M)
  | adds {answer : Answer} {M : Layout} (config : RouteConfig) (hc : c = .addRoute config)
      (hnew : L.routes.get? config.id = none)
      (hroutes : M.routes = L.routes.insert config.id { config := config })
      (hcount : M.useCounter = L.useCounter) : Registers L c (answer, M)
  | deletes {answer : Answer} {M : Layout} {r : RouteId} {x : Route} (hc : c = .deleteRoute r)
      (hr : L.routes.get? r = some x) (hroutes : M.routes = L.routes.erase r)
      (hcount : M.useCounter = L.useCounter) : Registers L c (answer, M)
  | uses {M : Layout} {r : RouteId} {x : Route} (l : LocoId)
      (hc : c = .lockRoute r l) (hr : L.routes.get? r = some x)
      (hroutes : M.routes = L.routes.insert r { x with lastUsed := L.useCounter + 1 })
      (hcount : M.useCounter = L.useCounter + 1) : Registers L c (.accepted true, M)

/-- An operation of another kind. -/
theorem Registers.of_same {c : Call} {result : Answer × Layout} (h : L.SameRoutes result.2)
    (hc : ∀ r l, c ≠ .lockRoute r l) : L.Registers c result :=
  .nothing h fun r l heq => absurd heq (hc r l)

theorem registers_addRoute (c : RouteConfig) :
    L.Registers (.addRoute c) (changed (L.addRoute c)) := by
  have hother : ∀ r l, Call.addRoute c ≠ .lockRoute r l := by
    intro r l heq
    cases heq
  by_cases hthere : L.routes.contains c.id
  · rw [addRoute, if_pos hthere]
    exact .of_same ⟨rfl, rfl⟩ hother
  rw [addRoute, if_neg hthere]
  cases L.missingReference c with
  | some key => exact .of_same ⟨rfl, rfl⟩ hother
  | none =>
    have hsame := sameRoutes_modifySegments
      (L := { L with routes := L.routes.insert c.id { config := c } }) c.segments
      fun g => (g.addRoute c.id c.priority).2
    exact .adds c rfl (get?_eq_none_of_contains hthere) hsame.routes hsame.useCounter

theorem registers_deleteRoute (r : RouteId) :
    L.Registers (.deleteRoute r) (changed (L.deleteRoute r)) := by
  unfold deleteRoute
  split
  · exact .of_same ⟨rfl, rfl⟩ nofun
  next x hr =>
    have hsame := sameRoutes_modifySegments (L := { L with routes := L.routes.erase r })
      x.config.segments fun g => (g.removeRoute r).2
    exact .deletes rfl hr hsame.routes hsame.useCounter

theorem registers_lockRoute (hcalm : L.reaction = none) (r : RouteId) (l : LocoId) :
    L.Registers (.lockRoute r l) (answered (L.lockRoute r l)) := by
  cases hr : L.routes.get? r with
  | none =>
    rw [lockRoute, hr]
    exact .nothing ⟨rfl, rfl⟩ fun _ _ _ => rfl
  | some x =>
    have hlocks := locksRoute_lockRoute hcalm hr l
    generalize L.lockRoute r l = result at hlocks
    cases hlocks with
    | nothing => exact .nothing ⟨rfl, rfl⟩ fun _ _ _ => rfl
    | all hheld h =>
      -- The lock is described by look-ups, so the registries are compared by look-ups, too.
      refine .uses l rfl hr (Registry.ext_get? fun r' => ?_) h.useCounter
      rw [h.routes, Registry.get?_insert]
      by_cases heq : r' = r
      · subst heq
        simp [hr]
      · simp [heq]

/-- **What an operation does to the routes.** -/
theorem registers_call (hL : L.Sound) (c : Call) : L.Registers c (L.call c) := by
  have hcalm := hL.calm
  cases c with
  | addRoute c => exact registers_addRoute c
  | deleteRoute r => exact registers_deleteRoute r
  | lockRoute r l => exact registers_lockRoute hcalm r l
  | addSensor c => exact .of_same (aside_addSensor c).sameRoutes nofun
  | addAccessory c => exact .of_same (aside_addAccessory c).sameRoutes nofun
  | addLoco c => exact .of_same ⟨rfl, rfl⟩ nofun
  | addSegment c => exact .of_same (sameRoutes_addSegment hcalm c) nofun
  | updateSegment c => exact .of_same (sameRoutes_updateSegment hcalm c) nofun
  | deleteSensor s => exact .of_same (aside_deleteSensor s).sameRoutes nofun
  | deleteAccessory id => exact .of_same (aside_deleteAccessory id).sameRoutes nofun
  | deleteLoco l => exact .of_same (aside_deleteLoco l).sameRoutes nofun
  | deleteSegment t => exact .of_same (sameRoutes_deleteSegment t) nofun
  | setSensorState s state => exact .of_same (sameRoutes_setSensorState hcalm s state) nofun
  | reserveRoute r l => exact .of_same (sameRoutes_reserveRoute hL r l) nofun
  | releaseRoute r l => exact .of_same (sameRoutes_releaseRoute hcalm r l) nofun
  | reserve t | reserveForce t | lock t | release t | releaseForce t | setBlocked t
  | setOrientation t => exact .of_same (sameRoutes_onSegment hcalm t false fun g => g.call _) nofun

/-! ## Loading -/

/-- What adding a stored object does to the routes and the count of uses. -/
inductive Stores (L : Layout) (key : EntityKey) (f : Fields) : Layout → Prop where
  | nothing {M : Layout} (h : L.SameRoutes M) : Stores L key f M
  | adds {M : Layout} {x : Route} (hkind : key.kind = .route)
      (hread : Route.ofFields ⟨key.number⟩ f = .ok x) (hnew : L.routes.get? x.config.id = none)
      (hroutes : M.routes = L.routes.insert x.config.id x) (hcount : M.useCounter = L.useCounter) :
      Stores L key f M

theorem stores_addStored (hcalm : L.reaction = none) (key : EntityKey) (f : Fields) :
    L.Stores key f (L.addStored key f).2 := by
  -- What cannot be read is not added, and what is no route changes no routes.
  have hother : ∀ {α : Type} (read : Except LayoutError α)
      (add : α → Layout → Except LayoutError Unit × Layout),
      (∀ a, L.SameRoutes (add a L).2) → L.Stores key f (L.addRead read add).2 := by
    intro α read add hadd
    cases read with
    | error e => exact .nothing ⟨rfl, rfl⟩
    | ok a => exact .nothing (hadd a)
  unfold addStored
  split
  · exact hother _ _ fun c => (aside_addSensor c).sameRoutes
  · exact hother _ _ fun c => (aside_addAccessory c).sameRoutes
  · exact hother _ _ fun _ => ⟨rfl, rfl⟩
  · exact hother _ _ (sameRoutes_addSegment hcalm)
  next hkind =>
    -- What cannot be read, is there already or refers to what is missing is not added.
    cases hread : Route.ofFields ⟨key.number⟩ f with
    | error e => exact .nothing ⟨rfl, rfl⟩
    | ok x =>
      cases hnew : L.routes.get? x.config.id with
      | some y =>
        have hthere : L.routes.contains x.config.id = true := by
          rw [Registry.contains, hnew]
          rfl
        simp only [addRead, addStampedRoute, addRoute, if_pos hthere]
        exact .nothing ⟨rfl, rfl⟩
      | none =>
        cases hrefs : L.missingReference x.config with
        | some key' =>
          simp only [addRead, addStampedRoute, addRoute, not_contains hnew, hrefs]
          exact .nothing ⟨rfl, rfl⟩
        | none =>
          obtain ⟨segments, hadded, -⟩ := addStampedRoute_of_referenced hnew hrefs
          simp only [addRead, hadded]
          exact .adds hkind hread hnew rfl rfl

end Layout
end Interlocking
