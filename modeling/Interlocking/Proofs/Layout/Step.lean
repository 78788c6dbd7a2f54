/-
What one operation does to a layout.

An operation makes calls on segments and accessories that are there, or it adds
or deletes one thing. `Does` lists these possibilities, with what was checked
before a thing was added or deleted, and `does_call` says that there are no
others. Which calls an operation makes is told from the operation alone
(`Call.Makes`). Every invariant of layouts is proved by the cases of this list;
none of these proofs looks into an operation again.

The list is about what can be held and about routes. Sensors, locos, notices,
the command station and the count of uses may change in every case.
-/
import Interlocking.Layout.Archive
import Interlocking.Layout.Call
import Interlocking.Proofs.Layout.Locking
import Interlocking.Proofs.Layout.Updating
import Interlocking.Proofs.Segment.Routes

set_option autoImplicit false

namespace Interlocking

/-- The accessory after a run of calls. -/
def Accessory.run (a : Accessory) (calls : List Accessory.Call) : Accessory :=
  calls.foldl (fun a c => (a.call c).2) a

/-- A call on something that can be held. -/
inductive Deed where
  | segment (t : SegmentId) (c : Segment.Call)
  | accessory (id : AccessoryId) (c : Accessory.Call)

namespace Layout

variable {L M N : Layout} {P : Deed → Prop}

/-! ## Calls on what is there -/

/-- Nothing was added and nothing deleted: every segment and every accessory is
what calls that `P` admits have made of it. -/
structure Called (P : Deed → Prop) (L M : Layout) : Prop where
  segments : ∀ t, ∃ calls : List Segment.Call, (∀ c ∈ calls, P (.segment t c)) ∧
    M.segments.get? t = (L.segments.get? t).map fun g => g.run calls
  accessories : ∀ id, ∃ calls : List Accessory.Call, (∀ c ∈ calls, P (.accessory id c)) ∧
    M.accessories.get? id = (L.accessories.get? id).map fun a => a.run calls
  routes : ∀ r, (M.routes.get? r).map Route.config = (L.routes.get? r).map Route.config
  calm : L.reaction = none → M.reaction = none

theorem Called.of_same (hs : M.segments = L.segments) (ha : M.accessories = L.accessories)
    (hr : M.routes = L.routes) (hcalm : L.reaction = none → M.reaction = none) :
    L.Called P M where
  segments t := ⟨[], by simp, by simp [hs]⟩
  accessories id := ⟨[], by simp, by simp [ha, Accessory.run]⟩
  routes r := by rw [hr]
  calm := hcalm

theorem Called.refl (L : Layout) : L.Called P L := .of_same rfl rfl rfl id

theorem Called.trans (h : L.Called P M) (h' : M.Called P N) : L.Called P N where
  segments t := by
    obtain ⟨calls, hcalls, hM⟩ := h.segments t
    obtain ⟨more, hmore, hN⟩ := h'.segments t
    refine ⟨calls ++ more, fun c hc => ?_, ?_⟩
    · exact (List.mem_append.1 hc).elim (hcalls c) (hmore c)
    · rw [hN, hM, Option.map_map]
      congr 1
      funext g
      exact (g.run_append calls more).symm
  accessories id := by
    obtain ⟨calls, hcalls, hM⟩ := h.accessories id
    obtain ⟨more, hmore, hN⟩ := h'.accessories id
    refine ⟨calls ++ more, fun c hc => ?_, ?_⟩
    · exact (List.mem_append.1 hc).elim (hcalls c) (hmore c)
    · rw [hN, hM, Option.map_map]
      congr 1
      funext a
      exact List.foldl_append.symm
  routes r := (h'.routes r).trans (h.routes r)
  calm hcalm := h'.calm (h.calm hcalm)

theorem Called.notifyAll (hcalm : L.reaction = none) (notice : Option Snapshot) :
    L.Called P (L.notifyAll notice) := by
  rw [notifyAll_of_calm hcalm]
  exact .of_same rfl rfl rfl id

theorem Called.onSegment {α : Type} (hcalm : L.reaction = none) {t : SegmentId} (unknown : α)
    {change : Segment → Segment.Outcome α} {c : Segment.Call} (hc : P (.segment t c))
    (hchange : ∀ g, (change g).segment = (g.call c).segment) :
    L.Called P (L.onSegment t unknown change).2 := by
  rw [Layout.onSegment]
  split
  · exact .refl L
  next g hg =>
    have hone : L.Called P { L with segments := L.segments.insert t (change g).segment } := by
      refine ⟨fun t' => ?_, (Called.refl L).accessories, fun r => rfl, id⟩
      by_cases ht : t' = t
      · subst ht
        refine ⟨[c], by simpa using hc, ?_⟩
        rw [Registry.get?_insert_self, hg, hchange]
        rfl
      · exact ⟨[], by simp, by simp [Registry.get?_insert_of_ne _ ht]⟩
    exact hone.trans (.notifyAll (hone.calm hcalm) _)

theorem Called.callSegment (hcalm : L.reaction = none) {t : SegmentId} {c : Segment.Call}
    (hc : P (.segment t c)) : L.Called P (L.callSegment t c).2 :=
  .onSegment hcalm false hc fun _ => rfl

theorem Called.callAccessory {id : AccessoryId} {c : Accessory.Call} (hc : P (.accessory id c)) :
    L.Called P (L.callAccessory id c).2 := by
  rw [Layout.callAccessory]
  split
  · exact .refl L
  next a ha =>
    refine ⟨(Called.refl L).segments, fun id' => ?_, fun r => rfl, fun hcalm => hcalm⟩
    by_cases hid : id' = id
    · subst hid
      refine ⟨[c], by simpa using hc, ?_⟩
      dsimp only
      rw [Registry.get?_insert_self, ha]
      rfl
    · exact ⟨[], by simp, by simp [Registry.get?_insert_of_ne _ hid, Accessory.run]⟩

/-! ## What becomes of the claims of a route

Reserving and locking a route were described thing by thing, and each thing is
what one or two calls make of it. -/

theorem Granted.called {l : LocoId} {cs : List Claim} (hL : L.Sound) (h : L.Granted l cs M)
    (hcs : ∀ c ∈ cs, L.Obtainable l c) (hsegment : ∀ t, P (.segment t (.reserve l)))
    (haccessory : ∀ id, P (.accessory id (.reserve l))) : L.Called P M where
  segments t := by
    rw [h.segments]
    by_cases hc : .segment t ∈ cs
    · refine ⟨[.reserve l], by simpa using hsegment t, ?_⟩
      obtain ⟨g, hg, hobt⟩ := hcs _ hc
      rw [hg, Option.map_some, Option.map_some, if_pos hc, ← (hL.segments t g hg).call_reserve hobt]
      rfl
    · exact ⟨[], by simp, by simp [hc]⟩
  accessories id := by
    rw [h.accessories]
    by_cases hc : .accessory id ∈ cs
    · refine ⟨[.reserve l], by simpa using haccessory id, ?_⟩
      obtain ⟨a, ha, hobt⟩ := hcs _ hc
      rw [ha, Option.map_some, Option.map_some, if_pos hc,
        ← Accessory.call_reserve_of_obtainable hobt]
      rfl
    · exact ⟨[], by simp, by simp [hc, Accessory.run]⟩
  routes r := by rw [h.rest]
  calm hcalm := by rw [h.rest]; exact hcalm

theorem RouteLocked.called {r : RouteId} {l : LocoId} {c : RouteConfig} (h : L.RouteLocked r l c M)
    (hheld : ∀ x ∈ c.claims, L.HeldBy l x) (hsegment : ∀ t, P (.segment t (.lock l)))
    (haccessory : ∀ id, P (.accessory id (.lock l)))
    (houtput : ∀ id o, P (.accessory id (.setOutput o))) : L.Called P M where
  segments t := by
    rw [h.segments]
    by_cases hc : .segment t ∈ c.claims
    · refine ⟨[.lock l], by simpa using hsegment t, ?_⟩
      obtain ⟨g, hg, hl⟩ := heldBy_segment_iff.1 (hheld _ hc)
      rw [hg, Option.map_some, Option.map_some, if_pos hc]
      simp only [Segment.run_cons, Segment.run_nil, Segment.call, Segment.tryLock_of_holder hl]
      rfl
    · exact ⟨[], by simp, by simp [hc]⟩
  accessories id := by
    cases ha : L.accessories.get? id with
    | none => exact ⟨[], by simp, by rw [h.accessories, ha]; rfl⟩
    | some a =>
      -- An accessory that keeps its output is set to it once more.
      obtain ⟨output, hM⟩ : ∃ output, M.accessories.get? id =
          some ((if .accessory id ∈ c.claims then a.lockedBy l else a).setOutput output) :=
        ⟨_, by rw [h.accessories, ha, Option.map_some]⟩
      rw [hM]
      by_cases hc : .accessory id ∈ c.claims
      · refine ⟨[.lock l, .setOutput output], by simp [haccessory, houtput], ?_⟩
        obtain ⟨a', ha', hl⟩ := heldBy_accessory_iff.1 (hheld _ hc)
        obtain rfl : a = a' := Option.some.inj (ha.symm.trans ha')
        simp only [Option.map_some, if_pos hc, Accessory.run, List.foldl_cons, List.foldl_nil,
          Accessory.call, Accessory.tryLock_of_holder hl]
      · exact ⟨[.setOutput output], by simp [houtput], by rw [if_neg hc]; rfl⟩
  routes r' := by
    rw [h.routes, Option.map_map]
    congr 1
    funext x
    simp only [Function.comp_apply]
    split <;> rfl
  calm hcalm := by rw [h.rest]; exact hcalm

theorem Called.releaseClaim {l : LocoId} {c : Claim} (hcalm : L.reaction = none)
    (hsegment : ∀ t, P (.segment t (.release l)))
    (haccessory : ∀ id, P (.accessory id (.release l))) : L.Called P (L.releaseClaim l c) := by
  cases c with
  | segment t => exact .callSegment hcalm (hsegment t)
  | accessory id => exact .callAccessory (haccessory id)

theorem Called.releaseHeld {l : LocoId} {cs : List Claim} (hcalm : L.reaction = none)
    (hsegment : ∀ t, P (.segment t (.release l)))
    (haccessory : ∀ id, P (.accessory id (.release l))) : L.Called P (L.releaseHeld l cs) := by
  induction cs generalizing L with
  | nil => exact .refl L
  | cons c cs ih =>
    have hfirst : L.Called P (if L.holds l c then L.releaseClaim l c else L) := by
      split
      · exact .releaseClaim hcalm hsegment haccessory
      · exact .refl L
    rw [Layout.releaseHeld]
    exact hfirst.trans (ih (hfirst.calm hcalm))

/-! ## Sensors

Giving sensors to a segment changes the sensors only, whether or not the segment gets them. -/

theorem attachEach_eq (t : SegmentId) (ids : List SensorId) :
    ∃ sensors, (L.attachEach t ids).2 = { L with sensors := sensors } := by
  induction ids generalizing L with
  | nil => exact ⟨L.sensors, rfl⟩
  | cons id ids ih =>
    rw [attachEach]
    split
    · exact ⟨L.sensors, rfl⟩
    split
    · exact ⟨L.sensors, rfl⟩
    next s' _ =>
      obtain ⟨sensors, hrest⟩ := ih (L := { L with sensors := L.sensors.insert id s' })
      generalize attachEach t ids { L with sensors := L.sensors.insert id s' } = rest at hrest
      obtain ⟨_ | _, L'⟩ := rest
      · -- Taking the sensor away again changes the sensors only, too.
        obtain rfl := hrest
        dsimp only
        split <;> exact ⟨_, rfl⟩
      · exact ⟨sensors, hrest⟩

theorem attachAll_eq (t : SegmentId) (ids : List SensorId) :
    ∃ sensors, (L.attachAll t ids).2 = { L with sensors := sensors } := by
  rw [attachAll]
  split
  · exact ⟨L.sensors, rfl⟩
  · have heach := attachEach_eq (L := L) t ids
    generalize L.attachEach t ids = attached at heach
    obtain ⟨_ | _, L'⟩ := attached <;> exact heach

theorem Called.detachAll (t : SegmentId) (ids : List SensorId) :
    L.Called P (L.detachAll t ids) := by
  rw [detachAll_eq]
  exact .of_same rfl rfl rfl id

theorem Called.attachAll (t : SegmentId) (ids : List SensorId) :
    L.Called P (L.attachAll t ids).2 := by
  obtain ⟨sensors, h⟩ := attachAll_eq (L := L) t ids
  rw [h]
  exact .of_same rfl rfl rfl id

/-! ## The routes at the segments -/

/-- Changing every segment of a list changes each of them once, if a second
change makes no difference. -/
theorem get?_modifySegments {change : Segment → Segment} (hagain : ∀ g, change (change g) = change g)
    (ids : List SegmentId) (t : SegmentId) :
    (L.modifySegments ids change).segments.get? t =
      (L.segments.get? t).map fun g => if t ∈ ids then change g else g := by
  induction ids generalizing L with
  | nil => simp [modifySegments]
  | cons t' ids ih =>
    rw [modifySegments, List.foldl_cons]
    refine (ih (L := { L with segments := L.segments.modify t' change })).trans ?_
    rw [Registry.get?_modify]
    by_cases ht : t = t'
    · -- The segment may be listed again, and then `hagain` comes in.
      subst ht
      rw [if_pos rfl, Option.map_map]
      congr 1
      funext g
      by_cases hids : t ∈ ids <;> simp [hids, hagain]
    · simp [ht]

theorem modifySegments_eq (ids : List SegmentId) (change : Segment → Segment) :
    L.modifySegments ids change = { L with segments := (L.modifySegments ids change).segments } := by
  induction ids generalizing L with
  | nil => rfl
  | cons t ids ih => exact ih (L := { L with segments := L.segments.modify t change })

/-! ## Operations on sensors, accessories and locos

They change a registry of their own and nothing else. -/

/-- Only sensors, accessories and locos may be different. -/
def Aside (L M : Layout) : Prop :=
  M = { L with sensors := M.sensors, accessories := M.accessories, locos := M.locos }

theorem aside_addSensor (c : SensorConfig) : L.Aside (L.addSensor c).2 := by
  rw [addSensor]
  split <;> rfl

theorem aside_deleteSensor (s : SensorId) : L.Aside (L.deleteSensor s).2 := by
  rw [deleteSensor]
  split
  · rfl
  · split <;> rfl

theorem aside_addAccessory (c : AccessoryConfig) : L.Aside (L.addAccessory c).2 := by
  rw [addAccessory]
  split <;> rfl

theorem aside_deleteAccessory (id : AccessoryId) : L.Aside (L.deleteAccessory id).2 := by
  rw [deleteAccessory]
  split
  · rfl
  · split <;> rfl

theorem aside_addLoco (c : Loco) : L.Aside (L.addLoco c) := rfl

theorem aside_deleteLoco (l : LocoId) : L.Aside (L.deleteLoco l).2 := by
  rw [deleteLoco]
  split
  · rfl
  · split <;> rfl

/-! ## Every operation -/

/-- The calls that an operation makes. The segments that a route touches are not
called when the route is added or deleted: they note it or forget it. -/
inductive Call.Makes : Call → Deed → Prop where
  | reserve (t : SegmentId) (l : LocoId) : Makes (.reserve t l) (.segment t (.reserve l))
  | reserveForce (t : SegmentId) (l : LocoId) :
      Makes (.reserveForce t l) (.segment t (.reserveForce l))
  | lock (t : SegmentId) (l : LocoId) : Makes (.lock t l) (.segment t (.lock l))
  | release (t : SegmentId) (l : LocoId) : Makes (.release t l) (.segment t (.release l))
  | releaseForce (t : SegmentId) (l : LocoId) :
      Makes (.releaseForce t l) (.segment t (.releaseForce l))
  | setBlocked (t : SegmentId) (b : Bool) : Makes (.setBlocked t b) (.segment t (.setBlocked b))
  | setOrientation (t : SegmentId) (o : Orientation) :
      Makes (.setOrientation t o) (.segment t (.setOrientation o))
  | setSensorState (s : SensorId) (state : Occupancy) (t : SegmentId) :
      Makes (.setSensorState s state) (.segment t (.setSensorState s state))
  | updateSegment (c : SegmentConfig) (sensors : List (SensorId × Occupancy)) {call : Segment.Call}
      (h : call ∈ settingCalls c sensors) : Makes (.updateSegment c) (.segment c.id call)
  | reserveSegment (r : RouteId) (l : LocoId) (t : SegmentId) :
      Makes (.reserveRoute r l) (.segment t (.reserve l))
  | reserveAccessory (r : RouteId) (l : LocoId) (id : AccessoryId) :
      Makes (.reserveRoute r l) (.accessory id (.reserve l))
  | lockSegment (r : RouteId) (l : LocoId) (t : SegmentId) :
      Makes (.lockRoute r l) (.segment t (.lock l))
  | lockAccessory (r : RouteId) (l : LocoId) (id : AccessoryId) :
      Makes (.lockRoute r l) (.accessory id (.lock l))
  | setOutput (r : RouteId) (l : LocoId) (id : AccessoryId) (o : Output) :
      Makes (.lockRoute r l) (.accessory id (.setOutput o))
  | releaseSegment (r : RouteId) (l : LocoId) (t : SegmentId) :
      Makes (.releaseRoute r l) (.segment t (.release l))
  | releaseAccessory (r : RouteId) (l : LocoId) (id : AccessoryId) :
      Makes (.releaseRoute r l) (.accessory id (.release l))

/-- What an operation does to a layout, if it makes calls that `P` admits. -/
inductive Does (P : Deed → Prop) (L : Layout) : Layout → Prop where
  | calls {M : Layout} (h : L.Called P M) : Does P L M
  | addsSegment {M : Layout} (h : L.Called P M) (c : SegmentConfig)
      (sensors : List (SensorId × Occupancy)) (hnew : M.segments.get? c.id = none) :
      Does P L { M with segments :=
        M.segments.insert c.id ((Segment.ofConfig c).call (.setSensors sensors)).segment }
  | deletesSegment {M : Layout} (h : L.Called P M) {t : SegmentId} {g : Segment}
      (hg : M.segments.get? t = some g) (huse : g.inUse = false) (hroutes : g.routes = []) :
      Does P L { M with segments := M.segments.erase t }
  | addsAccessory (c : AccessoryConfig) (hnew : L.accessories.get? c.id = none) :
      Does P L { L with accessories := L.accessories.insert c.id (.ofConfig c) }
  | deletesAccessory {id : AccessoryId} {a : Accessory} (ha : L.accessories.get? id = some a)
      (hfree : a.lock = .free)
      (hunused : ∀ x ∈ L.routes.values, id ∉ x.config.accessories.map Prod.fst) :
      Does P L { L with accessories := L.accessories.erase id }
  | addsRoute (c : RouteConfig) (hnew : L.routes.get? c.id = none)
      (hrefs : L.missingReference c = none) :
      Does P L (modifySegments c.segments (fun g => (g.addRoute c.id c.priority).2)
        { L with routes := L.routes.insert c.id { config := c } })
  | deletesRoute {r : RouteId} {x : Route} (hr : L.routes.get? r = some x) :
      Does P L (modifySegments x.config.segments (fun g => (g.removeRoute r).2)
        { L with routes := L.routes.erase r })

theorem Does.of_same (hs : M.segments = L.segments) (ha : M.accessories = L.accessories)
    (hr : M.routes = L.routes) (hcalm : L.reaction = none → M.reaction = none) : L.Does P M :=
  .calls (.of_same hs ha hr hcalm)

theorem Does.refl (L : Layout) : L.Does P L := .calls (.refl L)

theorem get?_eq_none_of_contains {κ α : Type} [Ord κ] [Std.TransOrd κ] [Std.LawfulEqOrd κ]
    {r : Registry κ α} {k : κ} (h : ¬ r.contains k = true) : r.get? k = none := by
  rw [Registry.contains] at h
  exact Option.not_isSome_iff_eq_none.1 h

theorem does_addSensor (c : SensorConfig) : L.Does P (L.addSensor c).2 := by
  rw [addSensor]
  split
  · exact .refl L
  · exact .of_same rfl rfl rfl id

theorem does_deleteSensor (s : SensorId) : L.Does P (L.deleteSensor s).2 := by
  rw [deleteSensor]
  split
  · exact .refl L
  · split
    · exact .refl L
    · exact .of_same rfl rfl rfl id

theorem does_addAccessory (c : AccessoryConfig) : L.Does P (L.addAccessory c).2 := by
  rw [addAccessory]
  split
  next => exact .refl L
  next hnew => exact .addsAccessory c (get?_eq_none_of_contains hnew)

theorem does_deleteAccessory (id : AccessoryId) : L.Does P (L.deleteAccessory id).2 := by
  rw [deleteAccessory]
  split
  · exact .refl L
  next a ha =>
    split
    · exact .refl L
    next hfree =>
      rw [Bool.or_eq_true, Bool.not_eq_true', List.any_eq_true] at hfree
      push Not at hfree
      refine .deletesAccessory ha (Lock.isFree_iff.1 (by simpa using hfree.1)) fun x hx => ?_
      simpa using hfree.2 x hx

theorem does_deleteLoco (l : LocoId) : L.Does P (L.deleteLoco l).2 := by
  rw [deleteLoco]
  split
  · exact .refl L
  · split
    · exact .refl L
    · exact .of_same rfl rfl rfl id

theorem does_addSegment (hcalm : L.reaction = none) (c : SegmentConfig) :
    L.Does P (L.addSegment c).2 := by
  rw [addSegment]
  split
  · exact .refl L
  split
  · exact .refl L
  next hnew =>
    have hattached : L.Called P (L.attachAll c.id c.sensors).2 := .attachAll c.id c.sensors
    generalize L.attachAll c.id c.sensors = attached at hattached
    obtain ⟨_ | sensors, M⟩ := attached
    · exact .calls hattached
    · -- The segment is the one of the configuration after its sensors were set.
      have htold : L.Called P (M.notifyAll ((Segment.ofConfig c).setSensors sensors).notice) :=
        hattached.trans (.notifyAll (hattached.calm hcalm) _)
      obtain ⟨calls, -, hsame⟩ := htold.segments c.id
      refine .addsSegment htold c sensors ?_
      rw [hsame, get?_eq_none_of_contains hnew]
      rfl

theorem does_updateSegment (hcalm : L.reaction = none) (c : SegmentConfig)
    (hset : ∀ sensors, ∀ call ∈ settingCalls c sensors, P (.segment c.id call)) :
    L.Does P (L.updateSegment c).2 := by
  have hupdates := updates hcalm c
  generalize L.updateSegment c = result at hupdates
  cases hupdates with
  | refused e _ => exact .refl L
  | @done g M h =>
    refine .calls ⟨fun t => ?_, fun id => ⟨[], by simp, ?_⟩, fun r => by rw [h.rest], fun _ => ?_⟩
    · by_cases ht : t = c.id
      · subst ht
        exact ⟨_, hset (L.sensorStates c.sensors), by rw [h.get?_self, h.registered]; rfl⟩
      · exact ⟨[], by simp, by rw [h.get?_of_ne ht]; simp⟩
    · rw [h.rest]
      simp [Accessory.run]
    · rw [h.rest]
      exact hcalm

theorem does_deleteSegment (t : SegmentId) : L.Does P (L.deleteSegment t).2 := by
  rw [deleteSegment]
  split
  · exact .refl L
  next g hg =>
    split
    · exact .refl L
    next hfree =>
      rw [Bool.or_eq_true, Bool.not_eq_true', not_or, Bool.not_eq_true, Bool.not_eq_false,
        List.isEmpty_iff] at hfree
      have hdetached : L.Called P (L.detachAll t g.sensorIds) := .detachAll t g.sensorIds
      have hsame : (L.detachAll t g.sensorIds).segments = L.segments := by rw [detachAll_eq]
      dsimp only
      generalize L.detachAll t g.sensorIds = M at hdetached hsame
      -- A reaction that waits for the segment keeps the segment as it is now.
      have hwithdrawn : L.Called P { M with
          reaction := M.reaction.map fun r => { r with target := r.target.withdraw t g } } := by
        refine hdetached.trans (.of_same rfl rfl rfl fun hcalm => ?_)
        dsimp only
        rw [hcalm, Option.map_none]
      exact .deletesSegment hwithdrawn (by rw [← hg, ← hsame]) hfree.1 hfree.2

theorem does_addRoute (c : RouteConfig) : L.Does P (L.addRoute c).2 := by
  rw [addRoute]
  split
  · exact .refl L
  next hnew =>
    split
    · exact .refl L
    next hrefs => exact .addsRoute c (get?_eq_none_of_contains hnew) hrefs

theorem does_deleteRoute (r : RouteId) : L.Does P (L.deleteRoute r).2 := by
  rw [deleteRoute]
  split
  · exact .refl L
  next x hr => exact .deletesRoute hr

theorem does_setSensorState (hcalm : L.reaction = none) (s : SensorId) (state : Occupancy)
    (hreport : ∀ t, P (.segment t (.setSensorState s state))) :
    L.Does P (L.setSensorState s state).2 := by
  rw [setSensorState]
  split
  · exact .refl L
  next sensor _ =>
    have hheard : L.Called P { L with
        sensors := L.sensors.insert s (sensor.report state fun owner => owner).2 } :=
      .of_same rfl rfl rfl id
    dsimp only
    split
    · exact .calls hheard
    next t _ =>
      exact .calls (hheard.trans (.onSegment (hheard.calm hcalm) true (hreport t) fun _ => rfl))

theorem does_reserveRoute (hL : L.Sound) (r : RouteId) (l : LocoId)
    (hsegment : ∀ t, P (.segment t (.reserve l)))
    (haccessory : ∀ id, P (.accessory id (.reserve l))) : L.Does P (L.reserveRoute r l).2 := by
  rw [reserveRoute]
  split
  · exact .refl L
  next route _ =>
    dsimp only
    split
    · have htakes := takesAll hL l route.config.claims
      generalize L.takeAll l route.config.claims = result at htakes
      cases htakes with
      | all hcs h => exact .calls (h.called hL hcs hsegment haccessory)
      | nothing => exact .refl L
    · exact .refl L

theorem does_lockRoute (hcalm : L.reaction = none) (r : RouteId) (l : LocoId)
    (hsegment : ∀ t, P (.segment t (.lock l))) (haccessory : ∀ id, P (.accessory id (.lock l)))
    (houtput : ∀ id o, P (.accessory id (.setOutput o))) : L.Does P (L.lockRoute r l).2 := by
  cases hr : L.routes.get? r with
  | none =>
    rw [lockRoute, hr]
    exact .refl L
  | some route =>
    have hlocks := locksRoute_lockRoute hcalm hr l
    generalize L.lockRoute r l = result at hlocks
    cases hlocks with
    | all hheld h => exact .calls (h.called hheld hsegment haccessory houtput)
    | nothing => exact .refl L

theorem does_releaseRoute (hcalm : L.reaction = none) (r : RouteId) (l : LocoId)
    (hsegment : ∀ t, P (.segment t (.release l)))
    (haccessory : ∀ id, P (.accessory id (.release l))) : L.Does P (L.releaseRoute r l).2 := by
  rw [releaseRoute]
  split
  · exact .refl L
  · dsimp only
    split
    · exact .calls (.releaseHeld hcalm hsegment haccessory)
    · exact .refl L

/-- **What an operation can do.** -/
theorem does_call (hL : L.Sound) (c : Call) : L.Does c.Makes (L.call c).2 := by
  cases c with
  | addSensor c => exact does_addSensor c
  | addAccessory c => exact does_addAccessory c
  | addLoco c => exact .of_same rfl rfl rfl id
  | addSegment c => exact does_addSegment hL.calm c
  | updateSegment c =>
    exact does_updateSegment hL.calm c fun sensors call h => .updateSegment c sensors h
  | addRoute c => exact does_addRoute c
  | deleteSensor s => exact does_deleteSensor s
  | deleteAccessory id => exact does_deleteAccessory id
  | deleteLoco l => exact does_deleteLoco l
  | deleteSegment t => exact does_deleteSegment t
  | deleteRoute r => exact does_deleteRoute r
  | reserve t l => exact .calls (.callSegment hL.calm (.reserve t l))
  | reserveForce t l => exact .calls (.callSegment hL.calm (.reserveForce t l))
  | lock t l => exact .calls (.callSegment hL.calm (.lock t l))
  | release t l => exact .calls (.callSegment hL.calm (.release t l))
  | releaseForce t l => exact .calls (.callSegment hL.calm (.releaseForce t l))
  | setBlocked t b => exact .calls (.callSegment hL.calm (.setBlocked t b))
  | setOrientation t o => exact .calls (.callSegment hL.calm (.setOrientation t o))
  | setSensorState s state =>
    exact does_setSensorState hL.calm s state fun t => .setSensorState s state t
  | reserveRoute r l => exact does_reserveRoute hL r l (.reserveSegment r l) (.reserveAccessory r l)
  | lockRoute r l =>
    exact does_lockRoute hL.calm r l (.lockSegment r l) (.lockAccessory r l) (.setOutput r l)
  | releaseRoute r l =>
    exact does_releaseRoute hL.calm r l (.releaseSegment r l) (.releaseAccessory r l)

/-! ## Loading -/

theorem does_addRead {α : Type} (read : Except LayoutError α)
    {add : α → Layout → Except LayoutError Unit × Layout} (hadd : ∀ a, L.Does P (add a L).2) :
    L.Does P (L.addRead read add).2 := by
  cases read with
  | ok a => exact hadd a
  | error e => exact .refl L

/-- Adding a stored object is adding an object, and a route gets its stamp
afterwards. -/
theorem does_addStored (hcalm : L.reaction = none) (key : EntityKey) (f : Fields) :
    ∃ M, L.Does P M ∧ M.Called P (L.addStored key f).2 := by
  rw [addStored]
  cases key.kind with
  | sensor => exact ⟨_, does_addRead _ does_addSensor, .refl _⟩
  | accessory => exact ⟨_, does_addRead _ does_addAccessory, .refl _⟩
  | loco => exact ⟨_, does_addRead _ fun _ => .of_same rfl rfl rfl id, .refl _⟩
  | segment => exact ⟨_, does_addRead _ (does_addSegment hcalm), .refl _⟩
  | route =>
    cases Route.ofFields ⟨key.number⟩ f with
    | error e => exact ⟨L, .refl L, .refl L⟩
    | ok r =>
      have hadded : L.Does P (L.addRoute r.config).2 := does_addRoute r.config
      simp only [addRead, addStampedRoute]
      generalize L.addRoute r.config = added at hadded
      obtain ⟨_ | _, M⟩ := added
      · exact ⟨M, hadded, .refl M⟩
      · refine ⟨M, hadded, (Called.refl M).segments, (Called.refl M).accessories, fun r' => ?_, id⟩
        dsimp only
        rw [Registry.get?_modify]
        split
        · rw [Option.map_map]
          rfl
        · rfl

end Layout
end Interlocking
