/-
What an operation tells observers.

An operation reaches a segment by calls only, one after another, and each call sends
its own notice. So the notices about a segment that an operation sends are told by the
calls that it makes on the segment (`Tells`). For a segment that is added these are
calls on what its configuration makes; a segment that is deleted is not mentioned, and
nothing is said about segments that are not there. `publishes_call` says this of every
operation and `tells_load` of loading.

Which calls these are is told from the operation (`Call.Causes`), as in `Does`. They
include none that drops a reservation: where an attempt to reserve a route fails, the
calls that undo it leave no trace, not even a notice.
-/
import Interlocking.Proofs.Layout.Reachable
import Interlocking.Proofs.Layout.Wiring
import Interlocking.Proofs.Segment.Notices

set_option autoImplicit false

namespace Interlocking.Layout

variable {L M N : Layout} {P : Deed → Prop} {t : SegmentId} {new : List Snapshot}

/-! ## Notices -/

/-- The notices that were sent between `L` and `M`. -/
def news (L M : Layout) : List Snapshot := M.notices.drop L.notices.length

theorem news_eq (h : M.notices = L.notices ++ new) : L.news M = new := by
  rw [news, h, List.drop_left]

theorem news_eq_nil (h : M.notices = L.notices) : L.news M = [] :=
  news_eq (by rw [h, List.append_nil])

/-- What is sent in two steps is sent one after the other. -/
theorem news_trans (h : M.notices = L.notices ++ L.news M)
    (h' : N.notices = M.notices ++ M.news N) :
    L.news N = L.news M ++ M.news N ∧ N.notices = L.notices ++ L.news N := by
  have hkept : N.notices = L.notices ++ (L.news M ++ M.news N) := by
    rw [← List.append_assoc, ← h]
    exact h'
  have hnews : L.news N = L.news M ++ M.news N := news_eq hkept
  exact ⟨hnews, by rw [hnews, hkept]⟩

/-- Those of some notices that are about a segment, in order. -/
def about (t : SegmentId) (notices : List Snapshot) : List Snapshot :=
  notices.filter fun s => decide (s.id = t)

theorem about_append (t : SegmentId) (first second : List Snapshot) :
    about t (first ++ second) = about t first ++ about t second := by
  rw [about, List.filter_append, about, about]

theorem about_eq_self (h : ∀ s ∈ new, s.id = t) : about t new = new :=
  List.filter_eq_self.2 fun s hs => decide_eq_true (h s hs)

theorem about_eq_nil (h : ∀ s ∈ new, s.id ≠ t) : about t new = [] :=
  List.filter_eq_nil_iff.2 fun s hs => by simpa using h s hs

/-! ## Calls and what they tell -/

/-- The segment that calls on `t` begin with: the one that is registered, or a new one. -/
inductive Begins (L : Layout) (t : SegmentId) : Segment → Prop where
  | registered {g : Segment} (hg : L.segments.get? t = some g) : Begins L t g
  | new (c : SegmentConfig) (hc : c.id = t) (hnone : L.segments.get? t = none) :
      Begins L t (.ofConfig c)

/-- What became of a segment between `L` and `M`, if `sent` are the notices about it and
all calls are calls that `P` admits. -/
inductive Told (P : Deed → Prop) (L M : Layout) (t : SegmentId) (sent : List Snapshot) :
    Prop where
  | absent (hL : L.segments.get? t = none) (hM : M.segments.get? t = none) (hsent : sent = [])
  | called {g : Segment} (hg : L.Begins t g) (calls : List Segment.Call)
      (hcalls : ∀ c ∈ calls, P (.segment t c))
      (hM : M.segments.get? t = some (g.run calls)) (hsent : sent = g.told calls)

theorem Told.of_same (h : M.segments.get? t = L.segments.get? t) : L.Told P M t [] := by
  cases hg : L.segments.get? t with
  | none => exact .absent hg (h.trans hg) rfl
  | some g => exact .called (.registered hg) [] (by simp) (h.trans hg) rfl

theorem Told.trans {first second : List Snapshot} (h : L.Told P M t first)
    (h' : M.Told P N t second) : L.Told P N t (first ++ second) := by
  cases h with
  | absent hL hM hfirst =>
    rw [hfirst, List.nil_append]
    cases h' with
    | absent _ hN hsecond => exact .absent hL hN hsecond
    | called hg calls hcalls hN hsecond =>
      cases hg with
      | registered hg => cases hM.symm.trans hg
      | new c hc _ => exact .called (.new c hc hL) calls hcalls hN hsecond
  | called hg calls hcalls hM hfirst =>
    cases h' with
    | absent hM' _ _ => cases hM'.symm.trans hM
    | called hg' more hmore hN hsecond =>
      cases hg' with
      | new c hc hM' => cases hM'.symm.trans hM
      | registered hg' =>
        obtain rfl := Option.some.inj (hM.symm.trans hg')
        refine .called hg (calls ++ more) (fun c hc => ?_) (by rw [hN, Segment.run_append]) ?_
        · exact (List.mem_append.1 hc).elim (hcalls c) (hmore c)
        · rw [hfirst, hsecond, Segment.told_append]

/-- From `L` to `M`, calls that `P` admits were made on segments, and observers were sent
the notices of these calls and no others. -/
structure Tells (P : Deed → Prop) (L M : Layout) : Prop where
  kept : M.notices = L.notices ++ L.news M
  told : ∀ t, L.Told P M t (about t (L.news M))
  calm : L.reaction = none → M.reaction = none

theorem Tells.of_same (hs : M.segments = L.segments) (hn : M.notices = L.notices)
    (hcalm : L.reaction = none → M.reaction = none) : L.Tells P M := by
  have hnews : L.news M = [] := news_eq_nil hn
  refine ⟨by rw [hnews, hn, List.append_nil], fun t => ?_, hcalm⟩
  rw [hnews]
  exact .of_same (by rw [hs])

theorem Tells.refl (L : Layout) : L.Tells P L := .of_same rfl rfl id

theorem Tells.trans (h : L.Tells P M) (h' : M.Tells P N) : L.Tells P N := by
  obtain ⟨hnews, hkept⟩ := news_trans h.kept h'.kept
  refine ⟨hkept, fun t => ?_, fun hcalm => h'.calm (h.calm hcalm)⟩
  rw [hnews, about_append]
  exact (h.told t).trans (h'.told t)

/-- A step that has to do with one segment only. -/
theorem Tells.of_one (hn : M.notices = L.notices ++ new) (hnew : ∀ s ∈ new, s.id = t)
    (hothers : ∀ t', t' ≠ t → M.segments.get? t' = L.segments.get? t')
    (hcalm : L.reaction = none → M.reaction = none) (hone : L.Told P M t new) : L.Tells P M := by
  have hnews : L.news M = new := news_eq hn
  refine ⟨by rw [hnews, hn], fun t' => ?_, hcalm⟩
  rw [hnews]
  by_cases ht : t' = t
  · subst ht
    rwa [about_eq_self hnew]
  · rw [about_eq_nil fun s hs heq => ht (heq.symm.trans (hnew s hs))]
    exact .of_same (hothers t' ht)

/-- Nobody interferes, and every segment is registered under its own id. -/
structure Orderly (L : Layout) : Prop where
  calm : L.reaction = none
  id_segment : ∀ t g, L.segments.get? t = some g → g.id = t

theorem Orderly.begins (hL : L.Orderly) {g : Segment} (h : L.Begins t g) : g.id = t := by
  cases h with
  | registered hg => exact hL.id_segment t g hg
  | new c hc _ => exact hc

theorem Orderly.tells (hL : L.Orderly) (h : L.Tells P M) : M.Orderly := by
  refine ⟨h.calm hL.calm, fun t g hg => ?_⟩
  cases h.told t with
  | absent _ hM _ => cases hM.symm.trans hg
  | called hbegins calls _ hM _ =>
    obtain rfl := Option.some.inj (hM.symm.trans hg)
    rw [Segment.id_run]
    exact hL.begins hbegins

/-! ## Calls on segments -/

/-- A change of a registered segment that is what a call does. -/
theorem Tells.onSegment {α : Type} (hL : L.Orderly) (unknown : α)
    {change : Segment → Segment.Outcome α} {c : Segment.Call} (hc : P (.segment t c))
    (hchange : ∀ g : Segment, (change g).segment = (g.call c).segment ∧
      (change g).notice = (g.call c).notice) :
    L.Tells P (L.onSegment t unknown change).2 := by
  rw [Layout.onSegment]
  cases hg : L.segments.get? t with
  | none => exact .refl L
  | some g =>
    obtain ⟨hsegment, hnotice⟩ := hchange g
    have htold : g.told [c] = (change g).notice.toList := by
      rw [Segment.told_singleton, hnotice]
    have hcalm : Layout.reaction
        { L with segments := L.segments.insert t (change g).segment } = none := hL.calm
    dsimp only
    rw [notifyAll_of_calm hcalm]
    refine .of_one (t := t) rfl (fun s hs => ?_) (fun t' ht => ?_) id ?_
    · rw [← htold] at hs
      exact (Segment.id_of_mem_told hs).trans (hL.id_segment t g hg)
    · exact Registry.get?_insert_of_ne _ ht _
    · refine .called (.registered hg) [c] (by simpa using hc) ?_ htold.symm
      dsimp only
      rw [Registry.get?_insert_self, hsegment]
      rfl

theorem Tells.callSegment (hL : L.Orderly) {c : Segment.Call} (hc : P (.segment t c)) :
    L.Tells P (L.callSegment t c).2 :=
  .onSegment hL false hc fun _ => ⟨rfl, rfl⟩

/-- Noting or forgetting a route is a call that sends nothing. -/
theorem Tells.modifySegments (ids : List SegmentId) {change : Segment → Segment}
    {c : Segment.Call} (hc : ∀ t, P (.segment t c))
    (hchange : ∀ g : Segment, g.call c = Segment.silently (g.call c).answer (change g)) :
    L.Tells P (L.modifySegments ids change) := by
  induction ids generalizing L with
  | nil => exact .refl L
  | cons t ids ih =>
    have hfirst : L.Tells P { L with segments := L.segments.modify t change } := by
      have hsilent : L.notices = L.notices ++ ([] : List Snapshot) := (List.append_nil _).symm
      refine .of_one (t := t) hsilent (by simp) (fun t' ht => ?_) id ?_
      · dsimp only
        rw [Registry.get?_modify, if_neg ht]
      · have hmodify : (L.segments.modify t change).get? t = (L.segments.get? t).map change := by
          rw [Registry.get?_modify, if_pos rfl]
        cases hg : L.segments.get? t with
        | none => exact .absent hg (by dsimp only; rw [hmodify, hg]; rfl) rfl
        | some g =>
          refine .called (.registered hg) [c] (by simpa using hc t) ?_ ?_
          · dsimp only
            rw [hmodify, hg, Segment.run_cons, hchange]
            rfl
          · rw [Segment.told_singleton, hchange]
            rfl
    exact hfirst.trans ih

/-! ## The claims of a route -/

theorem tells_releaseHeld (hL : L.Orderly) {l : LocoId} (hP : ∀ t, P (.segment t (.release l)))
    (cs : List Claim) : L.Tells P (L.releaseHeld l cs) := by
  induction cs generalizing L with
  | nil => exact .refl L
  | cons c cs ih =>
    rw [releaseHeld]
    split
    · have hfirst : L.Tells P (L.releaseClaim l c) := by
        cases c with
        | segment t => exact .callSegment hL (hP t)
        | accessory id =>
          rw [releaseClaim, callAccessory]
          split
          · exact .refl L
          · exact .of_same rfl rfl fun hcalm => hcalm
      exact hfirst.trans (ih (hL.tells hfirst))
    · exact ih hL

theorem tells_lockClaim (hL : L.Orderly) {l : LocoId} (hP : ∀ t, P (.segment t (.lock l)))
    (c : Claim) : L.Tells P (L.lockClaim l c).2 := by
  cases c with
  | segment t => exact .onSegment hL none (hP t) fun g => ⟨rfl, rfl⟩
  | accessory id =>
    rw [lockClaim]
    split
    · exact .of_same rfl rfl fun hcalm => hcalm
    · exact .refl L

/-- A loco locks what it holds, and then nothing has to be taken back. -/
theorem tells_lockAll (hL : L.Orderly) {l : LocoId} (hP : ∀ t, P (.segment t (.lock l)))
    {cs : List Claim} (hheld : ∀ c ∈ cs, L.HeldBy l c) : L.Tells P (L.lockAll l cs).2 := by
  induction cs generalizing L with
  | nil => exact .refl L
  | cons c cs ih =>
    obtain ⟨newly, M, hone, hlocked⟩ := lockClaim_of_held hL.calm (hheld c List.mem_cons_self)
    have hkept : ∀ c' ∈ cs, M.HeldBy l c' := by
      intro c' hc'
      exact hlocked.heldBy (hheld c' (List.mem_cons_of_mem _ hc'))
    obtain ⟨N, hall, -⟩ := lockAll_of_held (hlocked.calm hL.calm) hkept
    have hfirst : L.Tells P M := by
      have htells := tells_lockClaim hL hP c
      rwa [hone] at htells
    have hrest := ih (hL.tells hfirst) hkept
    rw [hall] at hrest
    simp only [lockAll, hone, hall]
    exact hfirst.trans hrest

theorem setAccessories_eq (outputs : List (AccessoryId × Output)) :
    ∃ accessories station, L.setAccessories outputs =
      { L with accessories := accessories, station := station } := by
  induction outputs generalizing L with
  | nil => exact ⟨L.accessories, L.station, rfl⟩
  | cons x outputs ih =>
    obtain ⟨id, output⟩ := x
    rw [setAccessories]
    split
    · exact ih
    · dsimp only
      split
      · obtain ⟨accessories, station, h⟩ := ih (L := { L with station := _, accessories := _ })
        exact ⟨accessories, station, h⟩
      · obtain ⟨accessories, station, h⟩ := ih (L := { L with station := _ })
        exact ⟨accessories, station, h⟩

/-- Calls on segments that send nothing. -/
theorem Called.tells {Q : Deed → Prop} (h : L.Called Q M) (hn : M.notices = L.notices)
    (hQ : ∀ t c, Q (.segment t c) →
      P (.segment t c) ∧ ∀ g : Segment, (g.call c).notice = none) : L.Tells P M := by
  have hnews : L.news M = [] := news_eq_nil hn
  refine ⟨by rw [hnews, hn, List.append_nil], fun t => ?_, h.calm⟩
  rw [hnews]
  obtain ⟨calls, hcalls, hM⟩ := h.segments t
  cases hg : L.segments.get? t with
  | none => exact .absent hg (by rw [hM, hg]; rfl) rfl
  | some g =>
    refine .called (.registered hg) calls (fun c hc => (hQ t c (hcalls c hc)).1)
      (by rw [hM, hg]; rfl) ?_
    exact (Segment.told_eq_nil fun c hc => (hQ t c (hcalls c hc)).2).symm

/-! ## Every operation -/

/-- The calls that an operation comes down to at segments. Setting the sensors of a new
segment counts as one, and so does noting or forgetting a route. -/
inductive Call.Causes : Call → Deed → Prop where
  | makes {c : Call} {d : Deed} (h : c.Makes d) : Causes c d
  | sets (c : SegmentConfig) (sensors : List (SensorId × Occupancy)) :
      Causes (.addSegment c) (.segment c.id (.setSensors sensors))
  | notes (c : RouteConfig) (t : SegmentId) :
      Causes (.addRoute c) (.segment t (.addRoute c.id c.priority))
  | forgets (r : RouteId) (t : SegmentId) : Causes (.deleteRoute r) (.segment t (.removeRoute r))

/-- The calls that loading comes down to. -/
inductive LoadCauses : Deed → Prop where
  | sets (t : SegmentId) (sensors : List (SensorId × Occupancy)) :
      LoadCauses (.segment t (.setSensors sensors))
  | notes (t : SegmentId) (r : RouteId) (priority : UInt8) :
      LoadCauses (.segment t (.addRoute r priority))

/-- From `L` to `M`, an operation told observers about its calls on segments, or it
deleted a segment and told them nothing. -/
inductive Publishes (P : Deed → Prop) (L M : Layout) : Prop where
  | tells (h : L.Tells P M)
  | deletes (t : SegmentId) (hs : M.segments = L.segments.erase t) (hn : M.notices = L.notices)

theorem Aside.tells (h : L.Aside M) : L.Tells P M := by
  rw [h]
  exact .of_same rfl rfl id

theorem tells_attachAll (t : SegmentId) (ids : List SensorId) :
    L.Tells P (L.attachAll t ids).2 := by
  obtain ⟨sensors, h⟩ := attachAll_eq (L := L) t ids
  rw [h]
  exact .of_same rfl rfl id

/-- The notice about a segment that is occupied from the start is sent before the
segment is registered. -/
theorem tells_addSegment (hL : L.Orderly) {c : SegmentConfig}
    (hP : ∀ sensors, P (.segment c.id (.setSensors sensors))) : L.Tells P (L.addSegment c).2 := by
  rw [addSegment]
  split
  · exact .refl L
  split
  · exact .refl L
  next hnew =>
    have hattached : L.Tells P (L.attachAll c.id c.sensors).2 := tells_attachAll c.id c.sensors
    obtain ⟨registry, hsame⟩ := attachAll_eq (L := L) c.id c.sensors
    generalize L.attachAll c.id c.sensors = attached at hattached hsame
    obtain ⟨_ | sensors, M⟩ := attached
    · exact hattached
    · have hM : M.Orderly := hL.tells hattached
      have hnone : M.segments.get? c.id = none := by
        rw [show M = _ from hsame]
        exact get?_eq_none_of_contains hnew
      have htold : (Segment.ofConfig c).told [.setSensors sensors] =
          ((Segment.ofConfig c).setSensors sensors).notice.toList := Segment.told_singleton _ _
      dsimp only
      rw [notifyAll_of_calm hM.calm]
      refine hattached.trans (.of_one (t := c.id) rfl (fun s hs => ?_) (fun t' ht => ?_) id ?_)
      · rw [← htold] at hs
        exact Segment.id_of_mem_told hs
      · exact Registry.get?_insert_of_ne _ ht _
      · refine .called (.new c rfl hnone) [.setSensors sensors] (by simpa using hP sensors) ?_
          htold.symm
        dsimp only
        rw [Registry.get?_insert_self]
        rfl

theorem tells_updateSegment (hL : L.Orderly) {c : SegmentConfig}
    (hP : ∀ sensors, ∀ call ∈ settingCalls c sensors, P (.segment c.id call)) :
    L.Tells P (L.updateSegment c).2 := by
  have hupdates := updates hL.calm c
  generalize L.updateSegment c = result at hupdates
  cases hupdates with
  | refused e _ => exact .refl L
  | @done g M h =>
    have hone : L.Told P M c.id (g.told (settingCalls c (L.sensorStates c.sensors))) :=
      .called (.registered h.registered) _ (hP _) h.get?_self rfl
    refine .of_one (by rw [h.rest]) (fun s hs => ?_) (fun t' ht => h.get?_of_ne ht) ?_ hone
    · exact (Segment.id_of_mem_told hs).trans (hL.id_segment _ g h.registered)
    · rw [h.rest]
      exact id

theorem publishes_deleteSegment (t : SegmentId) : L.Publishes P (L.deleteSegment t).2 := by
  rw [deleteSegment]
  split
  · exact .tells (.refl L)
  next g _ =>
    split
    · exact .tells (.refl L)
    · refine .deletes t ?_ ?_
      · dsimp only
        rw [detachAll_eq]
      · dsimp only
        rw [detachAll_eq]

theorem tells_addRoute {c : RouteConfig} (hP : ∀ t, P (.segment t (.addRoute c.id c.priority))) :
    L.Tells P (L.addRoute c).2 := by
  rw [addRoute]
  split
  · exact .refl L
  split
  · exact .refl L
  · have hnoted : L.Tells P { L with routes := L.routes.insert c.id { config := c } } :=
      .of_same rfl rfl id
    exact hnoted.trans (.modifySegments _ hP fun _ => rfl)

theorem tells_deleteRoute {r : RouteId} (hP : ∀ t, P (.segment t (.removeRoute r))) :
    L.Tells P (L.deleteRoute r).2 := by
  rw [deleteRoute]
  split
  · exact .refl L
  · have herased : L.Tells P { L with routes := L.routes.erase r } := .of_same rfl rfl id
    exact herased.trans (.modifySegments _ hP fun _ => rfl)

theorem tells_setSensorState (hL : L.Orderly) {s : SensorId} {state : Occupancy}
    (hP : ∀ t, P (.segment t (.setSensorState s state))) :
    L.Tells P (L.setSensorState s state).2 := by
  rw [setSensorState]
  split
  · exact .refl L
  next sensor _ =>
    have hheard : L.Tells P { L with
        sensors := L.sensors.insert s (sensor.report state fun owner => owner).2 } :=
      .of_same rfl rfl id
    dsimp only
    split
    · exact hheard
    next t _ =>
      exact hheard.trans (.onSegment (hL.tells hheard) true (hP t) fun _ => ⟨rfl, rfl⟩)

theorem tells_reserveRoute (hL : L.Sound) (r : RouteId) {l : LocoId}
    (hP : ∀ t, P (.segment t (.reserve l))) : L.Tells P (L.reserveRoute r l).2 := by
  rw [reserveRoute]
  split
  · exact .refl L
  next route _ =>
    dsimp only
    split
    · have htakes := takesAll hL l route.config.claims
      generalize L.takeAll l route.config.claims = result at htakes
      cases htakes with
      | nothing => exact .refl L
      | all hcs h =>
        -- All calls are reservations, and nobody is told about these.
        let Q : Deed → Prop := fun d => ∀ t c, d = .segment t c → c = .reserve l
        have hcalled : L.Called Q _ :=
          h.called hL hcs (fun t t' c heq => by cases heq; rfl) fun id t c heq => by cases heq
        refine hcalled.tells (by rw [h.rest]) fun t c hc => ?_
        obtain rfl := hc t c rfl
        exact ⟨hP t, fun g => Segment.notice_reserve g l⟩
    · exact .refl L

theorem tells_lockRoute (hL : L.Orderly) (r : RouteId) {l : LocoId}
    (hP : ∀ t, P (.segment t (.lock l))) : L.Tells P (L.lockRoute r l).2 := by
  rw [lockRoute]
  split
  · exact .refl L
  next route _ =>
    dsimp only
    split
    next hall =>
      have hheld : ∀ c ∈ route.config.claims, L.HeldBy l c := by
        intro c hc
        exact holds_iff.1 (List.all_eq_true.1 hall c hc)
      have hlocks := tells_lockAll hL hP hheld
      generalize L.lockAll l route.config.claims = result at hlocks
      obtain ⟨_ | _, M⟩ := result
      · exact hlocks
      · obtain ⟨accessories, station, hset⟩ :=
          setAccessories_eq (L := M) route.config.accessories
        dsimp only
        rw [hset]
        exact hlocks.trans (.of_same rfl rfl id)
    next => exact .refl L

theorem tells_releaseRoute (hL : L.Orderly) (r : RouteId) {l : LocoId}
    (hP : ∀ t, P (.segment t (.release l))) : L.Tells P (L.releaseRoute r l).2 := by
  rw [releaseRoute]
  split
  · exact .refl L
  · dsimp only
    split
    · exact tells_releaseHeld hL hP _
    · exact .refl L

/-- **What an operation tells observers.** -/
theorem publishes_call (hsound : L.Sound) (hL : L.Orderly) (c : Call) :
    L.Publishes c.Causes (L.call c).2 := by
  cases c with
  | addSensor c => exact .tells (aside_addSensor c).tells
  | addAccessory c => exact .tells (aside_addAccessory c).tells
  | addLoco c => exact .tells (aside_addLoco c).tells
  | deleteSensor s => exact .tells (aside_deleteSensor s).tells
  | deleteAccessory id => exact .tells (aside_deleteAccessory id).tells
  | deleteLoco l => exact .tells (aside_deleteLoco l).tells
  | addSegment c => exact .tells (tells_addSegment hL fun sensors => .sets c sensors)
  | updateSegment c =>
    exact .tells (tells_updateSegment hL fun sensors _ hcall =>
      .makes (.updateSegment c sensors hcall))
  | deleteSegment t => exact publishes_deleteSegment t
  | addRoute c => exact .tells (tells_addRoute fun t => .notes c t)
  | deleteRoute r => exact .tells (tells_deleteRoute fun t => .forgets r t)
  | reserve t l => exact .tells (.callSegment hL (.makes (.reserve t l)))
  | reserveForce t l => exact .tells (.callSegment hL (.makes (.reserveForce t l)))
  | lock t l => exact .tells (.callSegment hL (.makes (.lock t l)))
  | release t l => exact .tells (.callSegment hL (.makes (.release t l)))
  | releaseForce t l => exact .tells (.callSegment hL (.makes (.releaseForce t l)))
  | setBlocked t b => exact .tells (.callSegment hL (.makes (.setBlocked t b)))
  | setOrientation t o => exact .tells (.callSegment hL (.makes (.setOrientation t o)))
  | setSensorState s state =>
    exact .tells (tells_setSensorState hL fun t => .makes (.setSensorState s state t))
  | reserveRoute r l =>
    exact .tells (tells_reserveRoute hsound r fun t => .makes (.reserveSegment r l t))
  | lockRoute r l => exact .tells (tells_lockRoute hL r fun t => .makes (.lockSegment r l t))
  | releaseRoute r l =>
    exact .tells (tells_releaseRoute hL r fun t => .makes (.releaseSegment r l t))

theorem Call.Causes.ne_unreserve {c : Call} {l : LocoId} :
    ¬ c.Causes (.segment t (.unreserve l)) := by
  intro h
  cases h with
  | makes h => exact h.ne_unreserve

/-! ## Loading -/

theorem tells_addRead {α : Type} (read : Except LayoutError α)
    {add : α → Layout → Except LayoutError Unit × Layout} (hadd : ∀ a, L.Tells P (add a L).2) :
    L.Tells P (L.addRead read add).2 := by
  cases read with
  | ok a => exact hadd a
  | error e => exact .refl L

theorem tells_addStored (hL : L.Orderly) (key : EntityKey) (f : Fields) :
    L.Tells LoadCauses (L.addStored key f).2 := by
  rw [addStored]
  cases key.kind with
  | sensor => exact tells_addRead _ fun c => (aside_addSensor c).tells
  | accessory => exact tells_addRead _ fun c => (aside_addAccessory c).tells
  | loco => exact tells_addRead _ fun c => (aside_addLoco c).tells
  | segment =>
    exact tells_addRead _ fun c => tells_addSegment hL fun sensors => .sets c.id sensors
  | route =>
    refine tells_addRead _ fun x => ?_
    have hadded : L.Tells LoadCauses (L.addRoute x.config).2 :=
      tells_addRoute fun t => .notes t x.config.id x.config.priority
    rw [addStampedRoute]
    generalize L.addRoute x.config = added at hadded
    obtain ⟨_ | _, M⟩ := added
    · exact hadded
    · exact hadded.trans (.of_same rfl rfl id)

theorem tells_load {σ : Type} [Store σ] (hL : L.Orderly) (s : σ) :
    L.Tells LoadCauses (L.load s).2 := by
  refine load_keeps (P := L.Tells LoadCauses) (fun key f M hM => ?_) (fun n M hM => ?_) s (.refl L)
  · exact hM.trans (tells_addStored (hL.tells hM) key f)
  · exact hM.trans (.of_same rfl rfl id)

theorem LoadCauses.ne_unreserve {l : LocoId} : ¬ LoadCauses (.segment t (.unreserve l)) := by
  intro h
  cases h

end Interlocking.Layout
