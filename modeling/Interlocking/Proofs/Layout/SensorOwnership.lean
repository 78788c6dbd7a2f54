/-
Which sensor belongs to which segment, in every layout that operations lead to.

A sensor and the segment that has it know of each other: the sensor names its
owner, and the owner lists it together with the state that it reported last. The
two records are never written in one go, and still they agree after every
operation (`Wired`). The invariant is told from the side of the segments: the list
at `t` holds exactly what the sensors say about `t` (`Owned`). An operation that
does not touch what is said about `t` need not be looked at for the segment at `t`
(`WiredAt.congr`), and that settles all but the cases in which a list is written.
-/
import Interlocking.Proofs.Layout.RouteLists
import Interlocking.Proofs.Layout.Wiring

set_option autoImplicit false

namespace Interlocking.Layout

variable {L M : Layout} {t : SegmentId} {g g' : Segment} {s : SensorId} {x : Sensor}
  {state o : Occupancy}

/-! ## The two records -/

/-- The sensor `s` says that it belongs to `t` and that it reported `o` last. -/
def Owned (L : Layout) (t : SegmentId) (s : SensorId) (o : Occupancy) : Prop :=
  ∃ x, L.sensors.get? s = some x ∧ x.owner = some t ∧ x.state = o

/-- The segment at `t` lists the sensors that belong to it, each of them once and
with its state, and its occupancy is what they add up to. -/
structure WiredAt (L : Layout) (t : SegmentId) (g : Segment) : Prop where
  listed : ∀ s o, (s, o) ∈ g.sensors ↔ L.Owned t s o
  nodup : g.sensorIds.Nodup
  settled : g.Settled

/-- Sensors and segments agree on what belongs to what. -/
structure Wired (L : Layout) : Prop where
  segments : ∀ t g, L.segments.get? t = some g → L.WiredAt t g
  owners : ∀ s x t, L.sensors.get? s = some x → x.owner = some t → (L.segments.get? t).isSome

theorem WiredAt.congr (h : L.WiredAt t g) (hsensors : g'.sensors = g.sensors)
    (hsettled : g'.Settled) (howned : ∀ s o, M.Owned t s o ↔ L.Owned t s o) : M.WiredAt t g' where
  listed s o := by rw [hsensors, howned, h.listed]
  nodup := by
    rw [Segment.sensorIds, hsensors]
    exact h.nodup
  settled := hsettled

theorem WiredAt.mem_sensorIds (h : L.WiredAt t g) :
    s ∈ g.sensorIds ↔ ∃ x, L.sensors.get? s = some x ∧ x.owner = some t := by
  rw [Segment.sensorIds, List.mem_map]
  constructor
  · rintro ⟨⟨s, o⟩, hmem, rfl⟩
    obtain ⟨x, hx, howner, -⟩ := (h.listed s o).1 hmem
    exact ⟨x, hx, howner⟩
  · rintro ⟨x, hx, howner⟩
    exact ⟨(s, x.state), (h.listed s x.state).2 ⟨x, hx, howner, rfl⟩, rfl⟩

/-- The segment that has a sensor lists it. -/
theorem Wired.listed (h : L.Wired) (hx : L.sensors.get? s = some x) (howner : x.owner = some t) :
    ∃ g, L.segments.get? t = some g ∧ s ∈ g.sensorIds := by
  obtain ⟨g, hg⟩ := Option.isSome_iff_exists.1 (h.owners s x t hx howner)
  exact ⟨g, hg, (h.segments t g hg).mem_sensorIds.2 ⟨x, hx, howner⟩⟩

/-- What a sensor says about `t` is the same if only its standing with another
segment has changed. -/
theorem owned_map_iff {change : SensorId → Sensor → Sensor}
    (hsensors : ∀ s, M.sensors.get? s = (L.sensors.get? s).map (change s))
    (hsame : ∀ x, L.sensors.get? s = some x →
      ((change s x).owner = some t ∧ (change s x).state = o ↔ x.owner = some t ∧ x.state = o)) :
    M.Owned t s o ↔ L.Owned t s o := by
  rw [Owned, Owned, hsensors]
  cases hx : L.sensors.get? s with
  | none => simp
  | some x => simpa using hsame x hx

theorem owner_detach_eq_some_iff {t' : SegmentId} :
    (x.detach t).owner = some t' ↔ x.owner = some t' ∧ t' ≠ t := by
  rw [Sensor.detach]
  split
  next h => simp [h, eq_comm]
  next h =>
    refine (and_iff_left_of_imp ?_).symm
    rintro howner rfl
    exact h howner

/-! ## One operation -/

/-- Sensors that belong nowhere come and go without a trace in the segments. -/
theorem Wired.of_owned (h : L.Wired) (hsegments : M.segments = L.segments)
    (howned : ∀ t s o, M.Owned t s o ↔ L.Owned t s o) : M.Wired where
  segments t g hg := by
    rw [hsegments] at hg
    have hwired := h.segments t g hg
    exact hwired.congr rfl hwired.settled (howned t)
  owners s x t hx howner := by
    obtain ⟨y, hy, howner', -⟩ := (howned t s x.state).1 ⟨x, hx, howner, rfl⟩
    rw [hsegments]
    exact h.owners s y t hy howner'

theorem Wired.unheard (h : L.Wired) (hM : L.Unheard M) : M.Wired where
  segments t g' hg' := by
    obtain ⟨calls, hcalls, hsame⟩ := hM.segments t
    obtain ⟨g, hg, rfl⟩ := Option.map_eq_some_iff.1 (hsame.symm.trans hg')
    have hwired := h.segments t g hg
    refine hwired.congr (Segment.sensors_run hcalls) (hwired.settled.run calls) fun s o => ?_
    rw [Owned, Owned, hM.sensors]
  owners s x t hx howner := by
    obtain ⟨calls, -, hsame⟩ := hM.segments t
    rw [hsame, Option.isSome_map]
    rw [hM.sensors] at hx
    exact h.owners s x t hx howner

/-- The segment that has the sensor writes the report down where the sensor stands
in its list. -/
theorem WiredAt.hears (h : L.WiredAt t g) (hx : L.sensors.get? s = some x)
    (howner : x.owner = some t)
    (hsensors : M.sensors = L.sensors.insert s { x with state := state }) :
    M.WiredAt t (g.call (.setSensorState s state)).segment where
  listed s' o := by
    have hmem := (h.listed s x.state).2 ⟨x, hx, howner, rfl⟩
    rw [Segment.sensors_setSensorState, List.mem_map, Owned, hsensors, Registry.get?_insert]
    by_cases hs : s' = s
    · subst hs
      rw [if_pos rfl]
      constructor
      · rintro ⟨⟨s'', o'⟩, -, heq⟩
        dsimp only at heq
        split at heq
        · obtain ⟨-, rfl⟩ := Prod.mk.inj heq
          exact ⟨_, rfl, howner, rfl⟩
        next hne => exact absurd (Prod.mk.inj heq).1 hne
      · rintro ⟨y, hy, -, rfl⟩
        obtain rfl := Option.some.inj hy
        exact ⟨(s', x.state), hmem, if_pos rfl⟩
    · rw [if_neg hs, ← Owned, ← h.listed]
      constructor
      · rintro ⟨⟨s'', o'⟩, hmem', heq⟩
        dsimp only at heq
        split at heq
        · exact absurd (Prod.mk.inj heq).1.symm hs
        · rwa [← heq]
      · intro hmem'
        exact ⟨(s', o), hmem', if_neg hs⟩
  nodup := by
    have hids : ∀ y : SensorId × Occupancy, (if y.1 = s then (s, state) else y).1 = y.1 := by
      intro y
      split
      next heq => exact heq.symm
      next => rfl
    rw [Segment.sensorIds, Segment.sensors_setSensorState, List.map_map, Function.comp_def,
      funext hids]
    exact h.nodup
  settled := h.settled.call _

/-- A list that is written anew has the sensors that it was given. -/
theorem WiredAt.wires {ids dropped : List SensorId} (h : L.Wired) (hids : L.Wirable t ids)
    (hold : ∀ g', L.segments.get? t = some g' → ∀ s ∈ g'.sensorIds, s ∈ ids ∨ s ∈ dropped)
    (hsensors : ∀ s, M.sensors.get? s = (L.sensors.get? s).map fun x =>
      if s ∈ ids then { x with owner := some t } else if s ∈ dropped then x.detach t else x)
    (hg : g.sensors = L.sensorStates ids) (hsettled : g.Settled) : M.WiredAt t g where
  listed s o := by
    rw [hg, mem_sensorStates, Owned, hsensors]
    constructor
    · rintro ⟨hs, x, hx, rfl⟩
      exact ⟨_, by rw [hx]; rfl, by simp [hs], by simp [hs]⟩
    · rintro ⟨y, hy, howner, rfl⟩
      obtain ⟨x, hx, rfl⟩ := Option.map_eq_some_iff.1 hy
      by_cases hs : s ∈ ids
      · exact ⟨hs, x, hx, by simp [hs]⟩
      · rw [if_neg hs] at howner
        by_cases hdrop : s ∈ dropped
        · rw [if_pos hdrop, owner_detach_eq_some_iff] at howner
          exact absurd rfl howner.2
        · -- What the segment had before and was not let go is on the new list.
          rw [if_neg hdrop] at howner
          obtain ⟨g', hg', hmem⟩ := h.listed hx howner
          exact ((hold g' hg' s hmem).elim hs hdrop).elim
  nodup := by
    rw [Segment.sensorIds, hg, hids.map_fst_sensorStates]
    exact hids.1
  settled := hsettled

/-- A report reaches the segment that has the sensor, and no other. -/
theorem Wired.hears (h : L.Wired) (hx : L.sensors.get? s = some x)
    (hsensors : M.sensors = L.sensors.insert s { x with state := state })
    (hsegments : ∀ t, M.segments.get? t = (L.segments.get? t).map fun g =>
      if x.owner = some t then (g.call (.setSensorState s state)).segment else g) : M.Wired where
  segments t g' hg' := by
    obtain ⟨g, hg, rfl⟩ := Option.map_eq_some_iff.1 ((hsegments t).symm.trans hg')
    have hwired := h.segments t g hg
    split
    next howner => exact hwired.hears hx howner hsensors
    next howner =>
      refine hwired.congr rfl hwired.settled fun s' o => ?_
      rw [Owned, Owned, hsensors, Registry.get?_insert]
      split
      next heq =>
        subst heq
        rw [hx]
        simp [howner]
      next => rfl
  owners s' y t hy howner := by
    rw [hsegments, Option.isSome_map]
    rw [hsensors, Registry.get?_insert] at hy
    split at hy
    next =>
      obtain rfl := Option.some.inj hy
      exact h.owners s x t hx howner
    next => exact h.owners s' y t hy howner

/-- What is done to one segment need only be looked at there, if nothing is said about
the others that was not said before. -/
theorem Wired.of_others (h : L.Wired)
    (hothers : ∀ t', t' ≠ t → ∀ s o, M.Owned t' s o ↔ L.Owned t' s o)
    (hsegments : ∀ t', t' ≠ t → M.segments.get? t' = L.segments.get? t')
    (hhere : ∀ g, M.segments.get? t = some g → M.WiredAt t g)
    (hgone : M.segments.get? t = none → ∀ s o, ¬ M.Owned t s o) : M.Wired where
  segments t' g hg := by
    by_cases ht : t' = t
    · subst ht
      exact hhere g hg
    · rw [hsegments t' ht] at hg
      have hwired := h.segments t' g hg
      exact hwired.congr rfl hwired.settled (hothers t' ht)
  owners s x t' hx howner := by
    by_cases ht : t' = t
    · subst ht
      refine Option.isSome_iff_ne_none.2 fun hnone => ?_
      exact hgone hnone s x.state ⟨x, hx, howner, rfl⟩
    · obtain ⟨y, hy, howner', -⟩ := (hothers t' ht s x.state).1 ⟨x, hx, howner, rfl⟩
      rw [hsegments t' ht]
      exact h.owners s y t' hy howner'

/-- A segment that is written anew agrees with the sensors that it was given. -/
theorem Wired.wires {ids dropped : List SensorId} (h : L.Wired) (hids : L.Wirable t ids)
    (hold : ∀ g', L.segments.get? t = some g' → ∀ s ∈ g'.sensorIds, s ∈ ids ∨ s ∈ dropped)
    (hsensors : ∀ s, M.sensors.get? s = (L.sensors.get? s).map fun x =>
      if s ∈ ids then { x with owner := some t } else if s ∈ dropped then x.detach t else x)
    (hsegments : ∀ t', M.segments.get? t' = if t' = t then some g else L.segments.get? t')
    (hg : g.sensors = L.sensorStates ids) (hsettled : g.Settled) : M.Wired := by
  have hhere : M.segments.get? t = some g := by rw [hsegments, if_pos rfl]
  refine h.of_others (fun t' ht s o => owned_map_iff hsensors fun x hx => ?_)
    (fun t' ht => by rw [hsegments, if_neg ht]) (fun g' hg' => ?_) fun hnone => ?_
  · split
    next hs =>
      obtain ⟨x', hx', howner⟩ := hids.2 s hs
      obtain rfl := Option.some.inj (hx.symm.trans hx')
      rcases howner with howner | howner <;> simp [howner, Ne.symm ht]
    next =>
      split
      · simp [owner_detach_eq_some_iff, ht]
      · rfl
  · obtain rfl := Option.some.inj (hhere.symm.trans hg')
    exact WiredAt.wires h hids hold hsensors hg hsettled
  · cases hhere.symm.trans hnone

/-- A segment that goes lets go of its sensors. -/
theorem Wired.unwires (h : L.Wired) (hg : L.segments.get? t = some g)
    (hsensors : ∀ s, M.sensors.get? s = (L.sensors.get? s).map fun x =>
      if s ∈ g.sensorIds then x.detach t else x)
    (hsegments : M.segments = L.segments.erase t) : M.Wired := by
  have hgone : M.segments.get? t = none := by rw [hsegments, Registry.get?_erase, if_pos rfl]
  refine h.of_others (fun t' ht s o => owned_map_iff hsensors fun x hx => ?_)
    (fun t' ht => by rw [hsegments, Registry.get?_erase, if_neg ht]) (fun g' hg' => ?_)
    fun _ s o howned => ?_
  · split
    · simp [owner_detach_eq_some_iff, ht]
    · rfl
  · cases hgone.symm.trans hg'
  · -- A sensor that names the segment was on its list, and has been taken from it.
    obtain ⟨y, hy, howner, -⟩ := howned
    obtain ⟨x, hx, rfl⟩ := Option.map_eq_some_iff.1 ((hsensors s).symm.trans hy)
    split at howner
    · exact absurd rfl (owner_detach_eq_some_iff.1 howner).2
    next hout => exact absurd ((h.segments t g hg).mem_sensorIds.2 ⟨x, hx, howner⟩) hout

/-- **One operation** keeps sensors and segments in agreement. -/
theorem Wired.affects (h : L.Wired) (hM : L.Affects M) : M.Wired := by
  cases hM with
  | unheard hM => exact h.unheard hM
  | addsSensor c hnew =>
    refine h.of_owned rfl fun t s o => ?_
    rw [Owned, Owned, Registry.get?_insert]
    split
    next heq =>
      subst heq
      rw [hnew]
      simp [Sensor.ofConfig]
    next => rfl
  | @deletesSensor s x hx hfree hunwatched =>
    refine h.of_owned rfl fun t s' o => ?_
    rw [Owned, Owned, Registry.get?_erase]
    split
    next heq =>
      subst heq
      rw [hx]
      simp [hfree]
    next => rfl
  | hears state hx hsensors hsegments hlocos => exact h.hears hx hsensors hsegments
  | wires ids dropped hids hdropped hold hsensors hsegments hg hsettled hlocos =>
    exact h.wires hids hold hsensors hsegments hg hsettled
  | unwires hg hsensors hsegments hlocos => exact h.unwires hg hsensors hsegments
  | addsLoco | deletesLoco => exact h.of_owned rfl fun _ _ _ => .rfl

/-! ## Every history -/

theorem Wired.start (approach : Approach) (station : CommandStation) :
    Wired { defaultApproach := approach, station := station } where
  segments _ _ hg := nomatch hg
  owners _ _ _ hx := nomatch hx

/-- **Sensors and segments agree** in every layout that operations lead to. -/
theorem AddedInOrder.wired {order : List RouteId} (h : L.AddedInOrder order) : L.Wired := by
  induction h with
  | start approach station => exact .start approach station
  | call h c ih => exact ih.affects (affects_call h.linked.1 c)
  | addStored h key f ih => exact ih.affects (affects_addStored h.linked.1.calm key f)
  | count _ _ ih | elsewhere _ _ _ ih => exact ih.of_owned rfl fun _ _ _ => .rfl

theorem Reachable.wired (hL : L.Reachable) : L.Wired := by
  obtain ⟨order, h⟩ := hL.addedInOrder
  exact h.wired

/-! ## What this says about each of them -/

theorem Wired.owner_eq_some_iff (h : L.Wired) (hx : L.sensors.get? s = some x) :
    x.owner = some t ↔ ∃ g, L.segments.get? t = some g ∧ s ∈ g.sensorIds := by
  refine ⟨h.listed hx, ?_⟩
  rintro ⟨g, hg, hs⟩
  obtain ⟨y, hy, howner⟩ := (h.segments t g hg).mem_sensorIds.1 hs
  rwa [← Option.some.inj (hy.symm.trans hx)]

/-- A sensor has one owner. -/
theorem Wired.eq_of_mem_sensorIds {t' : SegmentId} (h : L.Wired) (hg : L.segments.get? t = some g)
    (hg' : L.segments.get? t' = some g') (hs : s ∈ g.sensorIds) (hs' : s ∈ g'.sensorIds) :
    t = t' := by
  obtain ⟨x, hx, howner⟩ := (h.segments t g hg).mem_sensorIds.1 hs
  have howner' := (h.owner_eq_some_iff hx).2 ⟨g', hg', hs'⟩
  exact Option.some.inj (howner.symm.trans howner')

theorem WiredAt.occupancy_eq_occupied_iff (h : L.WiredAt t g) :
    g.occupancy = .occupied ↔
      ∃ s ∈ g.sensorIds, ∃ x, L.sensors.get? s = some x ∧ x.state = .occupied := by
  rw [h.settled.occupied_iff]
  refine exists_congr fun s => ?_
  rw [h.listed, h.mem_sensorIds]
  constructor
  · rintro ⟨x, hx, howner, hstate⟩
    exact ⟨⟨x, hx, howner⟩, x, hx, hstate⟩
  · rintro ⟨⟨x, hx, howner⟩, y, hy, hstate⟩
    obtain rfl := Option.some.inj (hx.symm.trans hy)
    exact ⟨x, hx, howner, hstate⟩

/-- A report is refused only if the sensor is not registered: the segment that the
report is passed on to is there and knows the sensor. -/
theorem Wired.setSensorState_iff (h : L.Wired) (s : SensorId) (state : Occupancy) :
    (L.setSensorState s state).1 = true ↔ (L.sensors.get? s).isSome := by
  rw [setSensorState]
  cases hx : L.sensors.get? s with
  | none => simp
  | some x =>
    refine iff_of_true ?_ rfl
    dsimp only [Sensor.report]
    cases howner : x.owner with
    | none => rfl
    | some t =>
      obtain ⟨g, hg, hs⟩ := h.listed hx howner
      simp only [onSegment, hg, Segment.setSensorState_of_settled (h.segments t g hg).settled hs]
      rfl

/-- **Sensors and segments.** In every layout that operations lead to, a sensor has
an owner exactly if that segment is there and lists the sensor; no segment lists a
sensor twice and no two segments list the same; the sensors that are listed are
there, and the segment knows the states that they have; a segment is occupied
exactly if one of its sensors is; and a report is heard exactly if the sensor is
there. -/
theorem sensors_and_segments_agree (hL : L.Reachable) :
    (∀ s x t, L.sensors.get? s = some x →
      (x.owner = some t ↔ ∃ g, L.segments.get? t = some g ∧ s ∈ g.sensorIds)) ∧
    (∀ t g, L.segments.get? t = some g → g.sensorIds.Nodup) ∧
    (∀ t t' g g', L.segments.get? t = some g → L.segments.get? t' = some g' →
      ∀ s ∈ g.sensorIds, s ∈ g'.sensorIds → t = t') ∧
    (∀ t g, L.segments.get? t = some g → ∀ s o, (s, o) ∈ g.sensors →
      ∃ x, L.sensors.get? s = some x ∧ x.state = o) ∧
    (∀ t g, L.segments.get? t = some g → (g.occupancy = .occupied ↔
      ∃ s ∈ g.sensorIds, ∃ x, L.sensors.get? s = some x ∧ x.state = .occupied)) ∧
    ∀ s state, (L.setSensorState s state).1 = true ↔ (L.sensors.get? s).isSome := by
  have hwired := hL.wired
  refine ⟨fun s x t hx => hwired.owner_eq_some_iff hx, fun t g hg => (hwired.segments t g hg).nodup,
    fun t t' g g' hg hg' s hs hs' => hwired.eq_of_mem_sensorIds hg hg' hs hs',
    fun t g hg s o hmem => ?_, fun t g hg => (hwired.segments t g hg).occupancy_eq_occupied_iff,
    hwired.setSensorState_iff⟩
  obtain ⟨x, hx, -, hstate⟩ := ((hwired.segments t g hg).listed s o).1 hmem
  exact ⟨x, hx, hstate⟩

/-- A segment cannot have a sensor that another one has. It gets the sensor after
that segment was given a shorter list, and is then occupied from the start by what
the sensor reported when it belonged nowhere. -/
theorem sensors_and_segments_agree_after_handover :
    let segment (t : UInt32) (sensors : List SensorId) : SegmentConfig :=
      { id := ⟨t⟩, name := "T", length := 1, sensors := sensors }
    let calls : List Call :=
      [.addSensor { id := ⟨1⟩, name := "S1", address := 1 },
       .addSensor { id := ⟨2⟩, name := "S2", address := 2 },
       .addSegment (segment 1 [⟨1⟩, ⟨2⟩]), .addSegment (segment 2 [⟨1⟩]),
       .updateSegment (segment 1 [⟨2⟩]), .setSensorState ⟨1⟩ .occupied,
       .addSegment (segment 2 [⟨1⟩])]
    let L := empty.run calls
    (L.segments.get? ⟨1⟩).map Segment.sensors = some [(⟨2⟩, .free)] ∧
      (L.segments.get? ⟨2⟩).map Segment.sensors = some [(⟨1⟩, .occupied)] ∧
      (L.setSensorState ⟨1⟩ .free).1 = true ∧ (L.setSensorState ⟨3⟩ .free).1 = false := by
  intro segment calls L
  have hL : L.Reachable := (Reachable.start .doNotCare .silent).run calls
  obtain ⟨-, -, -, -, -, hheard⟩ := sensors_and_segments_agree hL
  refine ⟨by decide, by decide, (hheard _ _).2 (by decide), ?_⟩
  rw [Bool.eq_false_iff, Ne, hheard]
  decide

end Interlocking.Layout
