/-
Giving sensors to a segment, and taking them away.

Giving is an attempt. It succeeds exactly if no sensor is listed twice and each of
them is there and belongs to nobody else, and an attempt that fails leaves no
trace (`givesAll`): what was given is taken back, and a sensor that the segment
had before is not. The induction runs over the list and never asks whether a
sensor is listed twice, since that has been looked at before.
-/
import Interlocking.Layout.Registration

set_option autoImplicit false

namespace Interlocking.Layout

variable {L M : Layout} {t : SegmentId} {s : SensorId} {ids : List SensorId}

/-! ## Giving sensors to a segment -/

/-- Whether a sensor is there and belongs to no segment but this one. -/
def Attachable (L : Layout) (t : SegmentId) (s : SensorId) : Prop :=
  ∃ x, L.sensors.get? s = some x ∧ (x.owner = none ∨ x.owner = some t)

/-- The layout after some sensors were given to a segment. -/
structure Given (L : Layout) (t : SegmentId) (ids : List SensorId) (M : Layout) : Prop where
  sensors : ∀ s, M.sensors.get? s =
    (L.sensors.get? s).map fun x => if s ∈ ids then { x with owner := some t } else x
  rest : M = { L with sensors := M.sensors }

theorem Given.nil : L.Given t [] L where
  sensors s := by simp
  rest := rfl

/-- Giving one sensor, and then the others. -/
theorem Given.cons {x : Sensor} (hx : L.sensors.get? s = some x)
    (h : Given { L with sensors := L.sensors.insert s { x with owner := some t } } t ids M) :
    L.Given t (s :: ids) M := by
  refine ⟨fun s' => ?_, h.rest⟩
  rw [h.sensors, Registry.get?_insert]
  by_cases hs : s' = s
  · subst hs
    simp [hx]
  · simp [hs]

theorem Given.sensorStates (h : L.Given t ids M) (more : List SensorId) :
    M.sensorStates more = L.sensorStates more := by
  rw [Layout.sensorStates, Layout.sensorStates]
  congr 1
  funext s
  rw [h.sensors, Option.map_map]
  congr 1
  funext x
  simp only [Function.comp_apply]
  split <;> rfl

/-- Giving a sensor away makes nothing else harder or easier to give to the same
segment. -/
theorem attachable_insert_iff {x : Sensor} (hs : L.Attachable t s) {s' : SensorId} :
    Attachable { L with sensors := L.sensors.insert s { x with owner := some t } } t s' ↔
      L.Attachable t s' := by
  rw [Attachable]
  dsimp only
  rw [Registry.get?_insert]
  by_cases h : s' = s
  · subst h
    rw [if_pos rfl]
    exact iff_of_true ⟨_, rfl, .inr rfl⟩ hs
  · rw [if_neg h]
    rfl

theorem attach_eq_some_iff {x y : Sensor} :
    x.attach t = some y ↔ (x.owner = none ∨ x.owner = some t) ∧ y = { x with owner := some t } := by
  rw [Sensor.attach]
  split <;> simp_all [eq_comm]

/-- A sensor that was given to the segment just now is taken from it again, and
one that the segment had before stays with it. -/
theorem give_back {x : Sensor} (hx : L.sensors.get? s = some x)
    (howner : x.owner = none ∨ x.owner = some t) :
    (if x.owner = some t then
        { L with sensors := L.sensors.insert s { x with owner := some t } }
      else modifySensor s (Sensor.detach t)
        { L with sensors := L.sensors.insert s { x with owner := some t } }) = L := by
  split
  next hours =>
    have hsame : { x with owner := some t } = x := by rw [← hours]
    rw [hsame, Registry.insert_eq_self hx]
  next hfresh =>
    have hnone : x.owner = none := howner.resolve_right hfresh
    have hsame : Sensor.detach t { x with owner := some t } = x := by
      rw [Sensor.detach, if_pos rfl, ← hnone]
    simp only [modifySensor, Registry.modify, Registry.get?_insert_self, hsame,
      Registry.insert_insert, Registry.insert_eq_self hx]

/-- What comes of an attempt to give sensors to a segment one after another. -/
inductive GivesEach (L : Layout) (t : SegmentId) (ids : List SensorId) :
    Except LayoutError Unit × Layout → Prop where
  | all {M : Layout} (hids : ∀ s ∈ ids, L.Attachable t s) (h : L.Given t ids M) :
      GivesEach L t ids (.ok (), M)
  | nothing (e : LayoutError) (hids : ∃ s ∈ ids, ¬ L.Attachable t s) :
      GivesEach L t ids (.error e, L)

/-- **All sensors or none.** -/
theorem givesEach (t : SegmentId) (ids : List SensorId) :
    L.GivesEach t ids (L.attachEach t ids) := by
  -- The rest is given in a layout that has changed, so the statement is for all.
  induction ids generalizing L with
  | nil => exact .all (fun s hs => nomatch hs) .nil
  | cons s ids ih =>
    rw [attachEach]
    cases hx : L.sensors.get? s with
    | none =>
      refine .nothing _ ⟨s, List.mem_cons_self, ?_⟩
      rintro ⟨x, hx', -⟩
      cases hx.symm.trans hx'
    | some x =>
      dsimp only
      cases hattach : x.attach t with
      | none =>
        refine .nothing _ ⟨s, List.mem_cons_self, ?_⟩
        rintro ⟨x', hx', howner⟩
        obtain rfl := Option.some.inj (hx.symm.trans hx')
        cases hattach.symm.trans (attach_eq_some_iff.2 ⟨howner, rfl⟩)
      | some y =>
        obtain ⟨howner, rfl⟩ := attach_eq_some_iff.1 hattach
        have hs : L.Attachable t s := ⟨x, hx, howner⟩
        have hrest := ih (L := { L with sensors := L.sensors.insert s { x with owner := some t } })
        dsimp only
        generalize attachEach t ids
          { L with sensors := L.sensors.insert s { x with owner := some t } } = result at hrest
        cases hrest with
        | all hids h =>
          refine .all (fun s' hs' => ?_) (h.cons hx)
          rcases List.mem_cons.1 hs' with rfl | hs'
          · exact hs
          · exact (attachable_insert_iff hs).1 (hids s' hs')
        | nothing e hids =>
          obtain ⟨s', hs', hno⟩ := hids
          dsimp only
          rw [give_back hx howner]
          exact .nothing e ⟨s', List.mem_cons_of_mem _ hs',
            fun h => hno ((attachable_insert_iff hs).2 h)⟩

theorem firstRepeated_go_cons {seen : List SensorId} : firstRepeated.go seen (s :: ids) =
    if s ∈ seen then some s else firstRepeated.go (s :: seen) ids := rfl

theorem firstRepeated_go_eq_none_iff {seen : List SensorId} :
    firstRepeated.go seen ids = none ↔ ids.Nodup ∧ ∀ s ∈ ids, s ∉ seen := by
  induction ids generalizing seen with
  | nil => exact iff_of_true rfl ⟨.nil, fun _ hs => nomatch hs⟩
  | cons s ids ih =>
    rw [firstRepeated_go_cons]
    by_cases hs : s ∈ seen
    · simp [hs]
    · rw [if_neg hs, ih, List.nodup_cons]
      constructor
      · rintro ⟨hnodup, hout⟩
        refine ⟨⟨fun hmem => hout s hmem List.mem_cons_self, hnodup⟩, fun s' hs' => ?_⟩
        rcases List.mem_cons.1 hs' with rfl | hs'
        · exact hs
        · exact fun hmem => hout s' hs' (List.mem_cons_of_mem _ hmem)
      · rintro ⟨⟨hself, hnodup⟩, hout⟩
        refine ⟨hnodup, fun s' hs' hmem => ?_⟩
        rcases List.mem_cons.1 hmem with rfl | hmem
        · exact hself hs'
        · exact hout s' (List.mem_cons_of_mem _ hs') hmem

theorem firstRepeated_eq_none_iff : firstRepeated ids = none ↔ ids.Nodup := by
  rw [firstRepeated, firstRepeated_go_eq_none_iff]
  simp

/-- Whether a list of sensors can be that of a segment. -/
def Wirable (L : Layout) (t : SegmentId) (ids : List SensorId) : Prop :=
  ids.Nodup ∧ ∀ s ∈ ids, L.Attachable t s

/-- What comes of an attempt to give a whole list of sensors to a segment. -/
inductive GivesAll (L : Layout) (t : SegmentId) (ids : List SensorId) :
    Except LayoutError (List (SensorId × Occupancy)) × Layout → Prop where
  | all {M : Layout} (hids : L.Wirable t ids) (h : L.Given t ids M) :
      GivesAll L t ids (.ok (L.sensorStates ids), M)
  | nothing (e : LayoutError) (hids : ¬ L.Wirable t ids) : GivesAll L t ids (.error e, L)

theorem givesAll (t : SegmentId) (ids : List SensorId) :
    L.GivesAll t ids (L.attachAll t ids) := by
  rw [attachAll]
  cases hrep : firstRepeated ids with
  | some s =>
    refine .nothing _ fun hids => ?_
    cases hrep.symm.trans (firstRepeated_eq_none_iff.2 hids.1)
  | none =>
    have hgives := givesEach (L := L) t ids
    dsimp only
    generalize L.attachEach t ids = result at hgives
    cases hgives with
    | all hids h =>
      dsimp only
      rw [h.sensorStates]
      exact .all ⟨firstRepeated_eq_none_iff.1 hrep, hids⟩ h
    | nothing e hids =>
      obtain ⟨s, hs, hno⟩ := hids
      exact .nothing e fun hwirable => hno (hwirable.2 s hs)

/-! ## The states of a list of sensors -/

theorem mem_sensorStates {o : Occupancy} :
    (s, o) ∈ L.sensorStates ids ↔
      s ∈ ids ∧ ∃ x, L.sensors.get? s = some x ∧ x.state = o := by
  simp only [sensorStates, List.mem_filterMap, Option.map_eq_some_iff, Prod.mk.injEq]
  constructor
  · rintro ⟨s', hs', x, hx, rfl, rfl⟩
    exact ⟨hs', x, hx, rfl⟩
  · rintro ⟨hs, x, hx, rfl⟩
    exact ⟨s, hs, x, hx, rfl, rfl⟩

theorem map_fst_sensorStates (h : ∀ s ∈ ids, (L.sensors.get? s).isSome) :
    (L.sensorStates ids).map Prod.fst = ids := by
  induction ids with
  | nil => rfl
  | cons s ids ih =>
    obtain ⟨x, hx⟩ := Option.isSome_iff_exists.1 (h s List.mem_cons_self)
    have hrest := ih fun s' hs' => h s' (List.mem_cons_of_mem _ hs')
    rw [sensorStates, List.filterMap_cons, hx]
    exact congrArg (s :: ·) hrest

theorem Wirable.map_fst_sensorStates (h : L.Wirable t ids) :
    (L.sensorStates ids).map Prod.fst = ids := by
  refine Layout.map_fst_sensorStates fun s hs => ?_
  obtain ⟨x, hx, -⟩ := h.2 s hs
  rw [hx]
  rfl

/-! ## Taking sensors from a segment -/

@[simp] theorem state_detach {x : Sensor} : (x.detach t).state = x.state := by
  rw [Sensor.detach]
  split <;> rfl

@[simp] theorem config_detach {x : Sensor} : (x.detach t).config = x.config := by
  rw [Sensor.detach]
  split <;> rfl

@[simp] theorem detach_detach (x : Sensor) : (x.detach t).detach t = x.detach t := by
  simp only [Sensor.detach]
  by_cases h : x.owner = some t <;> simp [h]

/-- Nothing else changes. -/
theorem detachAll_eq (t : SegmentId) (ids : List SensorId) :
    L.detachAll t ids = { L with sensors := (L.detachAll t ids).sensors } := by
  induction ids generalizing L with
  | nil => rfl
  | cons id ids ih => exact ih (L := L.modifySensor id (Sensor.detach t))

theorem get?_detachAll :
    (L.detachAll t ids).sensors.get? s =
      (L.sensors.get? s).map fun x => if s ∈ ids then x.detach t else x := by
  induction ids generalizing L with
  | nil => simp [detachAll]
  | cons s' ids ih =>
    rw [detachAll, List.foldl_cons]
    refine (ih (L := L.modifySensor s' (Sensor.detach t))).trans ?_
    rw [modifySensor, Registry.get?_modify]
    by_cases hs : s = s'
    · -- The sensor may be listed again; it is taken away once.
      subst hs
      rw [if_pos rfl, Option.map_map]
      congr 1
      funext x
      by_cases hmem : s ∈ ids <;> simp [hmem]
    · simp [hs]

/-- The sensors after a segment was given some and let go of others. -/
theorem Given.get?_detachAll (h : L.Given t ids M) {dropped : List SensorId}
    (hdropped : ∀ s ∈ dropped, s ∉ ids) :
    (M.detachAll t dropped).sensors.get? s = (L.sensors.get? s).map fun x =>
      if s ∈ ids then { x with owner := some t } else if s ∈ dropped then x.detach t else x := by
  rw [Layout.get?_detachAll, h.sensors, Option.map_map]
  refine Option.map_congr fun x _ => ?_
  by_cases hs : s ∈ ids
  · have hstays : s ∉ dropped := fun hmem => hdropped s hmem hs
    simp [hs, hstays]
  · simp [hs]

end Interlocking.Layout
