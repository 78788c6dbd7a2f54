/-
Segments: the stretches of track that one loco holds at a time.

A segment combines three things that change for different reasons. Its lock is
moved by locos. Its occupancy is computed from its sensors. And when a loco
gives up a segment that is still occupied, and the segment asks for it, the
release is put off: the holder stays, the loco is remembered in
`pendingRelease`, and the report that clears the segment completes the release.

The occupancy that observers are shown lags behind: once occupied, a held
segment keeps showing occupied until it is neither occupied nor held.

A change may call for a notice to the observers. It then carries the snapshot
of the segment as the change leaves it.
-/
import Interlocking.Approach
import Interlocking.Lock
import Interlocking.Orientation
import Interlocking.Sensor

set_option autoImplicit false

namespace Interlocking

/-! ## Configuration -/

/-- The shape of a segment, for display. -/
inductive SegmentKind where
  | straight
  | turn
  | stop
  | bridge
  | tunnel
  | tunnelEnd
  | link
  | crossingLeft
  | crossingRight
  | crossingSymmetric
  deriving DecidableEq, Repr, Inhabited

/-- The name of a shape. -/
def SegmentKind.name : SegmentKind → String
  | straight => "straight"
  | turn => "turn"
  | stop => "end"
  | bridge => "bridge"
  | tunnel => "tunnel"
  | tunnelEnd => "tunnel_end"
  | link => "link"
  | crossingLeft => "crossing_left"
  | crossingRight => "crossing_right"
  | crossingSymmetric => "crossing_symmetric"

instance : Enumeration SegmentKind where
  all := [.straight, .turn, .stop, .bridge, .tunnel, .tunnelEnd, .link, .crossingLeft,
    .crossingRight, .crossingSymmetric]
  name := SegmentKind.name
  mem_all a := by cases a <;> decide
  name_inj a b := by cases a <;> cases b <;> decide

/-- The shape of a number; an unknown number is straight. -/
def SegmentKind.ofCode (n : UInt8) : SegmentKind := Enumeration.ofCode .straight n

/-- The length of the shortest segment. -/
def minLength : UInt16 := 1

/-- The length of the longest segment. -/
def maxLength : UInt16 := 100

/-- The nearest length that a segment can have. -/
def clampLength (n : UInt16) : UInt16 := min maxLength (max minLength n)

/-- The configuration of a segment. -/
structure SegmentConfig where
  id : SegmentId
  name : String
  kind : SegmentKind := .straight
  length : UInt16
  /-- The sensors of the segment, in the order in which they are listed. -/
  sensors : List SensorId := []
  /-- Put releases off while the segment is occupied. -/
  releaseWhenFree : Bool := false
  /-- The approach for routes that leave the segment. -/
  approach : Approach := .systemDefault
  /-- Closed by the operator: no new reservations. -/
  blocked : Bool := false
  /-- Which way the loco on the segment faces. -/
  orientation : Orientation := .right
  deriving DecidableEq, Repr

/-! ## Segments -/

/-- A segment on the layout. -/
structure Segment where
  id : SegmentId
  name : String
  kind : SegmentKind
  length : UInt16
  /-- The sensors with the states that the segment knows. -/
  sensors : List (SensorId × Occupancy)
  /-- Occupied as soon as one of the sensors is. -/
  occupancy : Occupancy := .free
  /-- The occupancy that observers are shown. -/
  occupancyDelayed : Occupancy := .free
  lock : Lock := .free
  orientation : Orientation
  blocked : Bool
  /-- The loco whose release waits for the segment to clear. -/
  pendingRelease : Option LocoId := none
  releaseWhenFree : Bool
  approach : Approach
  /-- The routes that touch the segment with their priorities, in the order in
  which they are looked at. -/
  routes : List (UInt8 × RouteId) := []
  deriving DecidableEq, Repr

/-- What observers are told about a segment. -/
structure Snapshot where
  id : SegmentId
  name : String
  lock : Lock
  occupancy : Occupancy
  occupancyDelayed : Occupancy
  blocked : Bool
  pendingRelease : Option LocoId
  releaseWhenFree : Bool
  orientation : Orientation
  deriving DecidableEq, Repr

namespace Segment

/-- The segment of a configuration: free, not held, every sensor taken to be
free, and the length brought into range. -/
def ofConfig (c : SegmentConfig) : Segment where
  id := c.id
  name := c.name
  kind := c.kind
  length := clampLength c.length
  sensors := c.sensors.map fun s => (s, .free)
  orientation := c.orientation
  blocked := c.blocked
  releaseWhenFree := c.releaseWhenFree
  approach := c.approach

/-- The configuration that a segment has now. -/
def config (g : Segment) : SegmentConfig where
  id := g.id
  name := g.name
  kind := g.kind
  length := g.length
  sensors := g.sensors.map Prod.fst
  releaseWhenFree := g.releaseWhenFree
  approach := g.approach
  blocked := g.blocked
  orientation := g.orientation

/-- What observers are told now. -/
def snapshot (g : Segment) : Snapshot where
  id := g.id
  name := g.name
  lock := g.lock
  occupancy := g.occupancy
  occupancyDelayed := g.occupancyDelayed
  blocked := g.blocked
  pendingRelease := g.pendingRelease
  releaseWhenFree := g.releaseWhenFree
  orientation := g.orientation

/-- The ids of the sensors, in order. -/
def sensorIds (g : Segment) : List SensorId := g.sensors.map Prod.fst

/-- The ids of the routes that touch the segment, in the order in which they
are looked at. -/
def routeIds (g : Segment) : List RouteId := g.routes.map Prod.snd

/-- Held by a loco, or waiting to be released. -/
def inUse (g : Segment) : Bool := !g.lock.isFree || g.pendingRelease.isSome

/-! ## Changes with notices -/

/-- The outcome of a change: the answer, the segment after it, and the
snapshot that observers are sent, if any. -/
structure Outcome (α : Type) where
  answer : α
  segment : Segment
  notice : Option Snapshot
  deriving DecidableEq

/-- A change that nobody is told about. -/
def silently {α : Type} (answer : α) (g : Segment) : Outcome α := ⟨answer, g, none⟩

/-- A change of which observers are told how the segment is after it. -/
def publicly {α : Type} (answer : α) (g : Segment) : Outcome α := ⟨answer, g, some g.snapshot⟩

/-! ## Occupancy -/

/-- The occupancy that the sensors add up to. -/
def aggregate (sensors : List (SensorId × Occupancy)) : Occupancy :=
  .ofBool (sensors.any fun s => s.2.isOccupied)

/-- Brings the shown occupancy up to date: occupied while the segment is
occupied, free once it is neither occupied nor held, and otherwise as before. -/
def refreshDelayed (g : Segment) : Segment :=
  if g.occupancy.isOccupied then { g with occupancyDelayed := .occupied }
  else if g.lock.isFree then { g with occupancyDelayed := .free }
  else g

/-- Completes a release that waited for the segment to clear. -/
def completeRelease (g : Segment) : Segment :=
  match g.pendingRelease with
  | none => g
  | some l => { g with pendingRelease := none, lock := (g.lock.release l).getD g.lock }

/-- Recomputes the occupancy; nothing if it is the same as before. A segment
that clears completes a release that was put off. -/
def settle (g : Segment) : Option Segment :=
  let seen := aggregate g.sensors
  if seen = g.occupancy then none
  else
    let g := { g with occupancy := seen }
    some (refreshDelayed (if seen.isOccupied then g else g.completeRelease))

/-- Replaces the sensors together with their states. -/
def setSensors (sensors : List (SensorId × Occupancy)) (g : Segment) : Outcome Unit :=
  let g := { g with sensors := sensors }
  match g.settle with
  | some g' => publicly () g'
  | none => silently () g

/-- Records the report of a sensor; refused if the sensor is not one of the
segment's. Where the sensor has that state already, nothing is recomputed. -/
def setSensorState (s : SensorId) (state : Occupancy) (g : Segment) : Outcome Bool :=
  if s ∈ g.sensorIds then
    if ∀ x ∈ g.sensors, x.1 = s → x.2 = state then silently true g
    else
      let record (x : SensorId × Occupancy) := if x.1 = s then (s, state) else x
      let g := { g with sensors := g.sensors.map record }
      match g.settle with
      | some g' => publicly true g'
      | none => silently true g
  else silently false g

/-! ## Reservation -/

/-- Reserves the segment for a loco. A blocked segment refuses everybody, its
holder included. A loco that asks again for what it was about to give up keeps
it. -/
def tryReserve (l : LocoId) (g : Segment) : Option (Grant × Segment) :=
  if g.blocked then none
  else
    (g.lock.reserve l).map fun k =>
      if g.pendingRelease = some l then
        (.heldPendingCancelled, { g with lock := k, pendingRelease := none })
      else (if g.lock.holder? = some l then .held else .new, { g with lock := k })

/-- Puts off a release again that a reservation had called off. If the segment
has cleared in the meantime, the release happens now. -/
def restorePendingRelease (l : LocoId) (g : Segment) : Outcome Unit :=
  if g.lock.holder? ≠ some l ∨ g.pendingRelease.isSome then silently () g
  else if g.occupancy.isOccupied then silently () { g with pendingRelease := some l }
  else publicly () (refreshDelayed { g with lock := .free })

/-- Reserves the segment whoever holds it and whether or not it is blocked. -/
def reserveForce (l : LocoId) (g : Segment) : Outcome Bool :=
  let g' := { g with lock := .reserved l, pendingRelease := none }
  if g.lock = .reserved l then silently true g' else publicly true g'

/-- Locks the segment for its holder; the answer tells whether this call
turned a reservation into a lock. -/
def tryLock (l : LocoId) (g : Segment) : Outcome (Option Bool) :=
  match g.lock.lock l with
  | some k => publicly (some (decide (g.lock = .reserved l))) { g with lock := k }
  | none => silently none g

/-- Takes a lock back to a reservation. -/
def unlock (l : LocoId) (g : Segment) : Outcome Bool :=
  match g.lock.unlock l with
  | some k => publicly true { g with lock := k }
  | none => silently false g

/-- Gives the segment up. If the segment puts releases off and is occupied,
the holder stays until it clears. -/
def release (l : LocoId) (g : Segment) : Outcome Bool :=
  if g.lock.holder? ≠ some l then silently false g
  else if g.releaseWhenFree && g.occupancy.isOccupied then
    publicly true { g with pendingRelease := some l }
  else publicly true (refreshDelayed { g with lock := .free, pendingRelease := none })

/-- Frees the segment whoever holds it and whether or not it is occupied. -/
def releaseForce (g : Segment) : Outcome Bool :=
  publicly true (refreshDelayed { g with lock := .free, pendingRelease := none })

/-- Drops a reservation that was never locked. -/
def unreserve (l : LocoId) (g : Segment) : Outcome Bool :=
  match g.lock.unreserve l with
  | some k => silently true (refreshDelayed { g with lock := k })
  | none => silently false g

/-! ## Settings -/

/-- Turns the loco on the segment. -/
def setOrientation (o : Orientation) (g : Segment) : Outcome Unit :=
  if g.orientation = o then silently () g else publicly () { g with orientation := o }

/-- Closes or opens the segment. The holder keeps what it has. -/
def setBlocked (b : Bool) (g : Segment) : Outcome Unit :=
  if g.blocked = b then silently () g else publicly () { g with blocked := b }

/-! ## Routes -/

/-- Puts a route behind all routes whose priority is not greater. -/
def insertRoute (priority : UInt8) (r : RouteId) :
    List (UInt8 × RouteId) → List (UInt8 × RouteId)
  | [] => [(priority, r)]
  | x :: xs => if x.1 ≤ priority then x :: insertRoute priority r xs else (priority, r) :: x :: xs

/-- Notes that a route touches the segment; refused if it is noted already. -/
def addRoute (r : RouteId) (priority : UInt8) (g : Segment) : Bool × Segment :=
  if r ∈ g.routeIds then (false, g)
  else (true, { g with routes := insertRoute priority r g.routes })

/-- Forgets a route; refused if it is not noted. -/
def removeRoute (r : RouteId) (g : Segment) : Bool × Segment :=
  (decide (r ∈ g.routeIds),
   { g with routes := g.routes.filter fun x => decide (x.2 ≠ r) })

end Segment
end Interlocking
