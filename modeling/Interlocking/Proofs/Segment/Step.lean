/-
What one call does to a segment.

Locos and sensors move four things on a segment: its lock, the release that
waits on it, its occupancy and the occupancy that is shown. `Effect` lists
what a call can do to these four, with the circumstances under which it does
it, and `call_effect` says that the list is complete. Every statement about
runs of calls that follows is a case analysis over this list; none of them
looks into a call again.

A refused call has a stronger property, that nothing at all changes and nobody
is told (`call_refused`).
-/
import Interlocking.Proofs.Lock
import Interlocking.Segment.Call

set_option autoImplicit false

namespace Interlocking.Segment

/-! ## The part that moves -/

/-- The part of a segment that locos and sensors move. -/
structure Core where
  lock : Lock
  /-- The loco whose release waits for the segment to clear. -/
  pending : Option LocoId
  occupancy : Occupancy
  /-- The occupancy that observers are shown. -/
  shown : Occupancy

/-- The moving part of a segment. -/
def core (g : Segment) : Core where
  lock := g.lock
  pending := g.pendingRelease
  occupancy := g.occupancy
  shown := g.occupancyDelayed

/-- Whether a call brings reports of sensors. -/
def Call.isReport : Call → Bool
  | .setSensorState .. | .setSensors _ => true
  | _ => false

/-- Whether a call is about what a segment is called, how it looks and how it
is to be used, rather than about locos and sensors. -/
def Call.isSetting : Call → Bool
  | .addRoute .. | .removeRoute _ | .setName _ | .setKind _ | .setLength _
  | .setReleaseWhenFree _ | .setApproach _ | .setOrientation _ | .setBlocked _ => true
  | _ => false

/-- What a call can do to the moving part of a segment, by the answer that it
gives. -/
inductive Effect (g : Segment) : Call → Bool → Core → Prop where
  | refused (c : Call) : Effect g c false g.core
  | setting {c : Call} (hc : c.isSetting = true) : Effect g c true g.core
  /-- A report that leaves the occupancy as it was. -/
  | unmoved {c : Call} (hc : c.isReport = true) : Effect g c true g.core
  | entered {c : Call} (hc : c.isReport = true) (ho : g.occupancy = .free) :
      Effect g c true { g.core with occupancy := .occupied, shown := .occupied }
  /-- The segment clears, and nothing was waiting for it that could happen now. -/
  | cleared {c : Call} (hc : c.isReport = true) (ho : g.occupancy = .occupied)
      (hp : ∀ l, g.pendingRelease = some l → g.lock.holder? ≠ some l) :
      Effect g c true { g.core with
        pending := none
        occupancy := .free
        shown := if g.lock.isFree then .free else g.occupancyDelayed }
  /-- The segment clears, and the release that waited for it happens. -/
  | fired {c : Call} {l : LocoId} (hc : c.isReport = true) (ho : g.occupancy = .occupied)
      (hp : g.pendingRelease = some l) (hl : g.lock.holder? = some l) :
      Effect g c true ⟨.free, none, .free, .free⟩
  | taken (l : LocoId) (hl : g.lock = .free) :
      Effect g (.reserve l) true { g.core with
        lock := .reserved l
        pending := if g.pendingRelease = some l then none else g.pendingRelease }
  | kept (l : LocoId) (hl : g.lock.holder? = some l) :
      Effect g (.reserve l) true { g.core with
        pending := if g.pendingRelease = some l then none else g.pendingRelease }
  | seized (l : LocoId) :
      Effect g (.reserveForce l) true { g.core with lock := .reserved l, pending := none }
  | locked (l : LocoId) (hl : g.lock.holder? = some l) :
      Effect g (.lock l) true { g.core with lock := .locked l }
  | unlocked (l : LocoId) (hl : g.lock = .locked l) :
      Effect g (.unlock l) true { g.core with lock := .reserved l }
  | putOff (l : LocoId) (hl : g.lock.holder? = some l) (hw : g.releaseWhenFree = true)
      (ho : g.occupancy = .occupied) :
      Effect g (.release l) true { g.core with pending := some l }
  | released (l : LocoId) (hl : g.lock.holder? = some l)
      (hn : ¬ (g.releaseWhenFree = true ∧ g.occupancy = .occupied)) :
      Effect g (.release l) true ⟨.free, none, g.occupancy, g.occupancy⟩
  | freed (l : LocoId) :
      Effect g (.releaseForce l) true ⟨.free, none, g.occupancy, g.occupancy⟩
  /-- Dropping a reservation leaves the release that waits as it is. -/
  | dropped (l : LocoId) (hl : g.lock = .reserved l) :
      Effect g (.unreserve l) true ⟨.free, g.pendingRelease, g.occupancy, g.occupancy⟩

/-! ## The pieces of a call -/

theorem isOccupied_eq_true_iff {o : Occupancy} : o.isOccupied = true ↔ o = .occupied := by
  cases o <;> simp [Occupancy.isOccupied]

/-- Once nobody holds the segment, the shown occupancy is the real one. -/
theorem core_refreshDelayed_free (g : Segment) (p : Option LocoId) :
    (refreshDelayed { g with lock := .free, pendingRelease := p }).core
      = ⟨.free, p, g.occupancy, g.occupancy⟩ := by
  cases g.occupancy <;> simp [refreshDelayed, Occupancy.isOccupied, core]

/-- A report that changes the occupancy: the segment becomes occupied, or it
clears and the release that waited for it happens. -/
theorem effect_settle {g g' : Segment} {sensors : List (SensorId × Occupancy)} {c : Call}
    (hc : c.isReport = true) (h : settle { g with sensors := sensors } = some g') :
    Effect g c true g'.core := by
  simp only [settle] at h
  split at h
  · cases h
  next hne =>
    obtain rfl := Option.some.inj h
    -- The occupancy changed, so the one before is the other of the two.
    cases hs : aggregate sensors with
    | occupied =>
      have ho : g.occupancy = .free := by
        cases hg : g.occupancy
        · rfl
        · rw [hs, hg] at hne
          exact absurd rfl hne
      have hcore := Effect.entered (g := g) hc ho
      simpa [Occupancy.isOccupied, refreshDelayed, core] using hcore
    | free =>
      have ho : g.occupancy = .occupied := by
        cases hg : g.occupancy
        · rw [hs, hg] at hne
          exact absurd rfl hne
        · rfl
      -- A noted loco that does not hold the segment has nothing to give up.
      cases hp : g.pendingRelease with
      | none =>
        have hcore := Effect.cleared (g := g) hc ho (by simp [hp])
        by_cases hf : g.lock.isFree <;>
          simpa [Occupancy.isOccupied, refreshDelayed, completeRelease, core, hp, hf] using hcore
      | some l =>
        by_cases hl : g.lock.holder? = some l
        · have hcore := Effect.fired (g := g) hc ho hp hl
          simpa [Occupancy.isOccupied, refreshDelayed, completeRelease, core, hp, hl,
            Lock.release] using hcore
        · have hcore := Effect.cleared (g := g) hc ho (by simp [hp, hl])
          by_cases hf : g.lock.isFree <;>
            simpa [Occupancy.isOccupied, refreshDelayed, completeRelease, core, hp, hl, hf,
              Lock.release] using hcore

/-! ## Reservation -/

/-- Reserving: a free segment is taken, and a loco that holds the segment keeps
it and takes back a release that waited. -/
theorem effect_reserve (l : LocoId) (g : Segment) :
    Effect g (.reserve l) (g.call (.reserve l)).answer (g.call (.reserve l)).segment.core := by
  simp only [call, tryReserve]
  by_cases hb : g.blocked
  · simpa [hb, silently] using Effect.refused (g := g) (.reserve l)
  cases hk : g.lock.reserve l with
  | none => simpa [hb, silently] using Effect.refused (g := g) (.reserve l)
  | some k =>
    rcases Lock.reserve_eq_some_iff.1 hk with ⟨hl, rfl⟩ | ⟨hl, rfl⟩
    · have hcore := Effect.taken l hl
      by_cases hp : g.pendingRelease = some l <;>
        simpa [hb, hp, silently, core] using hcore
    · have hcore := Effect.kept l hl
      by_cases hp : g.pendingRelease = some l <;>
        simpa [hb, hp, silently, core] using hcore

/-- Forcing a reservation always succeeds. -/
theorem effect_reserveForce (l : LocoId) (g : Segment) :
    Effect g (.reserveForce l) (g.call (.reserveForce l)).answer
      (g.call (.reserveForce l)).segment.core := by
  have hcore := Effect.seized (g := g) l
  simp only [call, reserveForce]
  split <;> simpa [silently, publicly, core] using hcore

/-- Locking needs the holder. -/
theorem effect_lock (l : LocoId) (g : Segment) :
    Effect g (.lock l) (g.call (.lock l)).answer (g.call (.lock l)).segment.core := by
  simp only [call, tryLock]
  cases hk : g.lock.lock l with
  | none => exact .refused _
  | some k =>
    obtain ⟨hl, rfl⟩ := Lock.lock_eq_some_iff.1 hk
    exact .locked l hl

/-- Unlocking needs the loco that locked. -/
theorem effect_unlock (l : LocoId) (g : Segment) :
    Effect g (.unlock l) (g.call (.unlock l)).answer (g.call (.unlock l)).segment.core := by
  simp only [call, unlock]
  cases hk : g.lock.unlock l with
  | none => exact .refused _
  | some k =>
    obtain ⟨hl, rfl⟩ := Lock.unlock_eq_some_iff.1 hk
    exact .unlocked l hl

/-- Releasing needs the holder; it is put off on an occupied segment that asks
for it. -/
theorem effect_release (l : LocoId) (g : Segment) :
    Effect g (.release l) (g.call (.release l)).answer (g.call (.release l)).segment.core := by
  simp only [call, release]
  by_cases hl : g.lock.holder? = some l
  · rw [if_neg (fun hne => hne hl)]
    split
    next hoff =>
      rw [Bool.and_eq_true, isOccupied_eq_true_iff] at hoff
      exact .putOff l hl hoff.1 hoff.2
    next hoff =>
      rw [Bool.and_eq_true, isOccupied_eq_true_iff] at hoff
      have hcore := Effect.released l hl hoff
      rwa [← core_refreshDelayed_free] at hcore
  · rw [if_pos hl]
    exact .refused _

/-- Dropping a reservation needs a reservation. -/
theorem effect_unreserve (l : LocoId) (g : Segment) :
    Effect g (.unreserve l) (g.call (.unreserve l)).answer
      (g.call (.unreserve l)).segment.core := by
  simp only [call, unreserve]
  cases hk : g.lock.unreserve l with
  | none => exact .refused _
  | some k =>
    obtain ⟨hl, rfl⟩ := Lock.unreserve_eq_some_iff.1 hk
    have hcore := Effect.dropped l hl
    rwa [← core_refreshDelayed_free] at hcore

/-! ## Reports and settings -/

/-- A report either leaves the occupancy as it was or settles the segment anew. -/
theorem effect_setSensors (sensors : List (SensorId × Occupancy)) (g : Segment) :
    Effect g (.setSensors sensors) (g.call (.setSensors sensors)).answer
      (g.call (.setSensors sensors)).segment.core := by
  simp only [call, setSensors]
  split
  next g' hs => exact effect_settle rfl hs
  next hs => exact .unmoved rfl

/-- The same for the report of one sensor, unless the sensor is unknown or the
state is known. -/
theorem effect_setSensorState (s : SensorId) (state : Occupancy) (g : Segment) :
    Effect g (.setSensorState s state) (g.call (.setSensorState s state)).answer
      (g.call (.setSensorState s state)).segment.core := by
  simp only [call, setSensorState]
  split
  · split
    · exact .unmoved rfl
    · split
      next g' hs => exact effect_settle rfl hs
      next hs => exact .unmoved rfl
  · exact .refused _

theorem segment_setOrientation (o : Orientation) (g : Segment) :
    (g.setOrientation o).segment = { g with orientation := o } := by
  rw [setOrientation]
  split
  next h =>
    rw [← h]
    rfl
  next => rfl

theorem segment_setBlocked (b : Bool) (g : Segment) :
    (g.setBlocked b).segment = { g with blocked := b } := by
  rw [setBlocked]
  split
  next h =>
    rw [← h]
    rfl
  next => rfl

/-- **What a setting can change.** -/
theorem setting_frame (g : Segment) {c : Call} (hc : c.isSetting = true) :
    ∃ name kind length releaseWhenFree approach orientation blocked routes, (g.call c).segment =
      { g with name, kind, length, releaseWhenFree, approach, orientation, blocked, routes } := by
  cases c with
  | addRoute r priority =>
    simp only [call, addRoute]
    split <;> exact ⟨_, _, _, _, _, _, _, _, rfl⟩
  | setOrientation o => exact ⟨_, _, _, _, _, _, _, _, segment_setOrientation o g⟩
  | setBlocked b => exact ⟨_, _, _, _, _, _, _, _, segment_setBlocked b g⟩
  | removeRoute | setName | setKind | setLength | setReleaseWhenFree | setApproach =>
    exact ⟨_, _, _, _, _, _, _, _, rfl⟩
  | _ => cases hc

/-- A setting leaves alone what locos and sensors move. -/
theorem core_call_setting (g : Segment) {c : Call} (hc : c.isSetting = true) :
    (g.call c).segment.core = g.core := by
  obtain ⟨_, _, _, _, _, _, _, _, h⟩ := g.setting_frame hc
  rw [h]
  rfl

/-- A setting is refused or leaves alone what locos and sensors move. -/
theorem effect_setting (g : Segment) {c : Call} (hc : c.isSetting = true) :
    Effect g c (g.call c).answer (g.call c).segment.core := by
  rw [core_call_setting g hc]
  cases (g.call c).answer with
  | true => exact .setting hc
  | false => exact .refused c

/-! ## Every call -/

/-- **What a call can do.** -/
theorem call_effect (g : Segment) (c : Call) :
    Effect g c (g.call c).answer (g.call c).segment.core := by
  cases c with
  | reserve l => exact effect_reserve l g
  | reserveForce l => exact effect_reserveForce l g
  | lock l => exact effect_lock l g
  | unlock l => exact effect_unlock l g
  | release l => exact effect_release l g
  | releaseForce l =>
    have hcore := Effect.freed (g := g) l
    rwa [← core_refreshDelayed_free] at hcore
  | unreserve l => exact effect_unreserve l g
  | setSensorState s state => exact effect_setSensorState s state g
  | setSensors sensors => exact effect_setSensors sensors g
  | _ => exact effect_setting g rfl

/-- The same with names for the parts of the segment after the call, which is
how a case analysis over the effects begins. -/
theorem call_parts (g : Segment) (c : Call) :
    ∃ answer k, Effect g c answer k ∧ (g.call c).answer = answer ∧
      (g.call c).segment.lock = k.lock ∧ (g.call c).segment.pendingRelease = k.pending ∧
      (g.call c).segment.occupancy = k.occupancy ∧
      (g.call c).segment.occupancyDelayed = k.shown :=
  ⟨_, _, g.call_effect c, rfl, rfl, rfl, rfl, rfl⟩

/-- **A refused call changes nothing**, and nobody is told. -/
theorem call_refused (g : Segment) {c : Call} (h : (g.call c).answer = false) :
    g.call c = silently false g := by
  cases c with
  | reserve l =>
    simp only [call] at h ⊢
    split at h
    · cases h
    · rfl
  | reserveForce l =>
    simp only [call, reserveForce] at h
    split at h <;> cases h
  | lock l =>
    simp only [call, tryLock] at h ⊢
    split at h
    · cases h
    · rfl
  | unlock l =>
    simp only [call, unlock] at h ⊢
    split at h
    · cases h
    · rfl
  | release l =>
    simp only [call, release] at h ⊢
    split at h
    next hl => rw [if_pos hl]
    · split at h <;> cases h
  | unreserve l =>
    simp only [call, unreserve] at h ⊢
    split at h
    · cases h
    · rfl
  | setSensorState s state =>
    simp only [call, setSensorState] at h ⊢
    split at h
    · split at h
      · cases h
      · split at h <;> cases h
    next hs => rw [if_neg hs]
  | addRoute r priority =>
    simp only [call, addRoute] at h ⊢
    split at h
    next hr => rw [if_pos hr]
    · cases h
  | removeRoute r =>
    have hr : r ∉ g.routeIds := by simpa [call, removeRoute, silently] using h
    -- A route that is not noted is no entry of the list, so nothing is dropped.
    have hall : ∀ x ∈ g.routes, decide (x.2 ≠ r) = true := by
      intro x hx
      have hne : x.2 ≠ r := fun e => hr (List.mem_map.2 ⟨x, hx, e⟩)
      simpa using hne
    simp only [call, removeRoute, List.filter_eq_self.2 hall, decide_eq_false hr]
  | _ => cases h

end Interlocking.Segment
