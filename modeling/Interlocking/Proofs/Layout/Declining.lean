/-
An operation that is declined changes nothing.

Some operations answer with yes or no and give no reason. Whether they decline is often
found out on the way: reserving a route has taken things by then and puts them back, and
a sensor has remembered its report before the segment that has it is asked. The first is
settled by `takesAll`, and the second never comes to a no in a layout that operations
lead to, because there the segment knows the sensor (`Wired.setSensorState_iff`).
-/
import Interlocking.Proofs.Layout.RouteReservation
import Interlocking.Proofs.Layout.SensorOwnership

set_option autoImplicit false

namespace Interlocking.Layout

variable {L : Layout} {t : SegmentId} {r : RouteId} {l : LocoId}

/-- What came of an operation that answers with yes or no, if no means that nothing
happened. -/
def Declines (L : Layout) (result : Bool × Layout) : Prop :=
  result.1 = false → result.2 = L

theorem Declines.yes (L M : Layout) : L.Declines (true, M) := by
  intro h
  cases h

theorem Declines.no (L : Layout) : L.Declines (false, L) := by
  intro _
  rfl

theorem declines_callSegment (t : SegmentId) (c : Segment.Call) :
    L.Declines (L.callSegment t c) := by
  unfold callSegment onSegment
  split
  · exact .no L
  next g hg =>
    intro hno
    -- The segment that refuses is the one that is registered, and there is no notice.
    dsimp only at hno ⊢
    rw [g.call_refused hno]
    show { L with segments := L.segments.insert t g } = L
    rw [Registry.insert_eq_self hg]

theorem declines_setSensorState (hL : L.Wired) (s : SensorId) (state : Occupancy) :
    L.Declines (L.setSensorState s state) := by
  intro hno
  cases hx : L.sensors.get? s with
  | none =>
    rw [setSensorState, hx]
  | some x =>
    have hyes : (L.setSensorState s state).1 = true := by
      rw [hL.setSensorState_iff, hx]
      rfl
    cases hno.symm.trans hyes

theorem declines_reserveRoute (hL : L.Sound) (r : RouteId) (l : LocoId) :
    L.Declines (L.reserveRoute r l) := by
  cases hr : L.routes.get? r with
  | none =>
    rw [reserveRoute, hr]
    exact .no L
  | some route =>
    have htakes := takesAll_reserveRoute hL hr l
    generalize L.reserveRoute r l = result at htakes
    cases htakes with
    | all hcs h => exact .yes L _
    | nothing hcs => exact .no L

theorem declines_lockRoute (hL : L.Sound) (r : RouteId) (l : LocoId) :
    L.Declines (L.lockRoute r l) := by
  cases hr : L.routes.get? r with
  | none =>
    rw [lockRoute, hr]
    exact .no L
  | some route =>
    have hlocks := locksRoute_lockRoute hL.calm hr l
    generalize L.lockRoute r l = result at hlocks
    cases hlocks with
    | all hheld h => exact .yes L _
    | nothing hnot => exact .no L

theorem declines_releaseRoute (r : RouteId) (l : LocoId) : L.Declines (L.releaseRoute r l) := by
  unfold releaseRoute
  split
  · exact .no L
  · dsimp only
    split
    · exact .yes L _
    · exact .no L

/-- A change of the configuration does not answer with yes or no. -/
theorem changed_ne_accepted (result : Except LayoutError Unit × Layout) (b : Bool) :
    (changed result).1 ≠ .accepted b := by
  obtain ⟨_ | _, M⟩ := result
  · exact nofun
  · exact nofun

/-- **A no changes nothing**: the layout is the one before, with everything that it
consists of, and nobody was sent a notice. -/
theorem Reachable.declined (hL : L.Reachable) {c : Call} (h : (L.call c).1 = .accepted false) :
    (L.call c).2 = L := by
  have hanswered : ∀ {result : Bool × Layout}, L.Declines result →
      (answered result).1 = .accepted false → (answered result).2 = L := by
    intro result hdeclines hno
    exact hdeclines (Answer.accepted.inj hno)
  cases c with
  | reserve t l | reserveForce t l | lock t l | release t l | releaseForce t l
  | setBlocked t b | setOrientation t o => exact hanswered (declines_callSegment t _) h
  | setSensorState s state => exact hanswered (declines_setSensorState hL.wired s state) h
  | reserveRoute r l => exact hanswered (declines_reserveRoute hL.sound r l) h
  | lockRoute r l => exact hanswered (declines_lockRoute hL.sound r l) h
  | releaseRoute r l => exact hanswered (declines_releaseRoute r l) h
  | addLoco c => cases h
  | addSensor | addAccessory | addSegment | updateSegment | addRoute | deleteSensor
  | deleteAccessory | deleteLoco | deleteSegment | deleteRoute =>
    exact absurd h (changed_ne_accepted _ _)

end Interlocking.Layout
