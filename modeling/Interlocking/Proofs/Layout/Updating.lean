/-
What an update of a segment comes to.

A segment gets a new configuration in many steps: the sensors are given one by one, those
that are no longer listed are taken away, and then every setting is a call on the segment.
An update is refused and leaves no trace, or it comes to one thing, which is told here once
(`Updated`). What is said about updates elsewhere is said about the two ends (`Updates`).
-/
import Interlocking.Proofs.Layout.Attaching
import Interlocking.Proofs.Layout.Reservation
import Interlocking.Proofs.Segment.Notices

set_option autoImplicit false

namespace Interlocking.Layout

variable {L M N : Layout} {c : SegmentConfig} {g : Segment}

/-- Calls on a registered segment, one after another. -/
theorem callAll_of_registered {t : SegmentId} (hcalm : L.reaction = none)
    (hg : L.segments.get? t = some g) (calls : List Segment.Call) :
    L.callAll t calls = { L with
      segments := L.segments.insert t (g.run calls)
      notices := L.notices ++ g.told calls } := by
  induction calls generalizing L g with
  | nil => simp [callAll, Registry.insert_eq_self hg]
  | cons call calls ih =>
    have hfirst : (L.callSegment t call).2 = { L with
        segments := L.segments.insert t (g.call call).segment
        notices := L.notices ++ (g.call call).notice.toList } := by
      simp only [callSegment, onSegment, hg]
      rw [notifyAll_of_calm]
      exact hcalm
    have hcalm' : (L.callSegment t call).2.reaction = none := by
      rw [hfirst]
      exact hcalm
    have hg' : (L.callSegment t call).2.segments.get? t = some (g.call call).segment := by
      rw [hfirst, Registry.get?_insert_self]
    rw [callAll, List.foldl_cons]
    refine (ih hcalm' hg').trans ?_
    simp only [hfirst, Registry.insert_insert, Segment.run_cons, Segment.told_cons,
      List.append_assoc]

/-- From `L` to `M`, the segment `g` got a new configuration: the sensors of the list are
given to it, those that it had before and that are not listed are taken from it, and it
makes the calls that set the rest. -/
structure Updated (L : Layout) (c : SegmentConfig) (g : Segment) (M : Layout) : Prop where
  valid : validLength c.length = true
  wirable : L.Wirable c.id c.sensors
  registered : L.segments.get? c.id = some g
  sensors : ∀ s, M.sensors.get? s = (L.sensors.get? s).map fun x =>
    if s ∈ c.sensors then { x with owner := some c.id }
    else if s ∈ g.sensorIds then x.detach c.id else x
  rest : M = { L with
    sensors := M.sensors
    segments := L.segments.insert c.id (g.run (settingCalls c (L.sensorStates c.sensors)))
    notices := L.notices ++ g.told (settingCalls c (L.sensorStates c.sensors)) }

/-- That leaves one outcome. -/
theorem Updated.unique (h : L.Updated c g M) (h' : L.Updated c g N) : M = N := by
  have hsensors : M.sensors = N.sensors :=
    Registry.ext_get? fun s => (h.sensors s).trans (h'.sensors s).symm
  rw [h.rest, h'.rest, hsensors]

theorem Updated.get?_self (h : L.Updated c g M) : M.segments.get? c.id =
    some (g.run (settingCalls c (L.sensorStates c.sensors))) := by
  rw [h.rest, Registry.get?_insert_self]

theorem Updated.get?_of_ne (h : L.Updated c g M) {t : SegmentId} (ht : t ≠ c.id) :
    M.segments.get? t = L.segments.get? t := by
  rw [h.rest, Registry.get?_insert_of_ne _ ht]

/-- What comes of an attempt to update a segment. -/
inductive Updates (L : Layout) (c : SegmentConfig) : Except LayoutError Unit × Layout → Prop where
  | done {g : Segment} {M : Layout} (h : L.Updated c g M) : Updates L c (.ok (), M)
  | refused (e : LayoutError) (h : ¬ (validLength c.length = true ∧
      (L.segments.get? c.id).isSome ∧ L.Wirable c.id c.sensors)) : Updates L c (.error e, L)

/-- **An update** is done as a whole or refused. -/
theorem updates (hcalm : L.reaction = none) (c : SegmentConfig) :
    L.Updates c (L.updateSegment c) := by
  rw [updateSegment]
  split
  next hlength => exact .refused _ fun ⟨hvalid, _⟩ => by simp [hvalid] at hlength
  next hlength =>
    cases hg : L.segments.get? c.id with
    | none => exact .refused _ fun ⟨_, hsome, _⟩ => by simp [hg] at hsome
    | some g =>
      have hgives := givesAll (L := L) c.id c.sensors
      dsimp only
      generalize L.attachAll c.id c.sensors = result at hgives
      cases hgives with
      | nothing e hids => exact .refused e fun ⟨_, _, h⟩ => hids h
      | @all N hids hgiven =>
        dsimp only
        generalize hd : g.sensorIds.filter (fun s => !c.sensors.contains s) = dropped
        have hmem : ∀ s, s ∈ dropped ↔ s ∈ g.sensorIds ∧ s ∉ c.sensors := by
          intro s
          rw [← hd, List.mem_filter]
          simp
        have hsensors := fun s => hgiven.get?_detachAll (s := s) fun s hs => ((hmem s).1 hs).2
        have hrest : N.detachAll c.id dropped =
            { L with sensors := (N.detachAll c.id dropped).sensors } := by
          rw [detachAll_eq, hgiven.rest]
        generalize N.detachAll c.id dropped = N' at hsensors hrest
        have hcalled := callAll_of_registered (L := N') (t := c.id) (g := g)
          (by rw [hrest]; exact hcalm) (by rw [hrest]; exact hg)
        refine .done (g := g) ⟨by simpa using hlength, hids, hg, fun s => ?_, ?_⟩
        · rw [hcalled, hsensors]
          refine Option.map_congr fun x _ => ?_
          by_cases hs : s ∈ c.sensors <;> simp [hs, hmem]
        · rw [hcalled, hrest]

/-- What an update comes to that is accepted. -/
theorem updated_of_ok (hcalm : L.reaction = none) (h : L.updateSegment c = (.ok (), M)) :
    ∃ g, L.Updated c g M := by
  have hupdates := updates hcalm c
  rw [h] at hupdates
  cases hupdates with
  | done hM => exact ⟨_, hM⟩

/-- An update is accepted if it can come to something. -/
theorem Updated.ok (hcalm : L.reaction = none) (h : L.Updated c g M) :
    L.updateSegment c = (.ok (), M) := by
  have hupdates := updates hcalm c
  generalize L.updateSegment c = result at hupdates
  cases hupdates with
  | @done g' N hN =>
    obtain rfl := Option.some.inj (h.registered.symm.trans hN.registered)
    rw [h.unique hN]
  | refused e hno => exact absurd ⟨h.valid, by simp [h.registered], h.wirable⟩ hno

end Interlocking.Layout
