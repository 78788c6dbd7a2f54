/-
The operations on a layout.

Everything that changes a layout from outside, except loading, is one of the
calls below, so a history of a layout is a list of calls. The questions that
can be asked about a layout change nothing and are plain functions of it.
-/
import Interlocking.Layout.Registration
import Interlocking.Layout.Selection

set_option autoImplicit false

namespace Interlocking.Layout

/-- An operation on a layout. -/
inductive Call where
  | addSensor (c : SensorConfig)
  | addAccessory (c : AccessoryConfig)
  | addLoco (c : Loco)
  | addSegment (c : SegmentConfig)
  | updateSegment (c : SegmentConfig)
  | addRoute (c : RouteConfig)
  | deleteSensor (id : SensorId)
  | deleteAccessory (id : AccessoryId)
  | deleteLoco (id : LocoId)
  | deleteSegment (id : SegmentId)
  | deleteRoute (id : RouteId)
  | reserve (t : SegmentId) (l : LocoId)
  | reserveForce (t : SegmentId) (l : LocoId)
  | lock (t : SegmentId) (l : LocoId)
  | release (t : SegmentId) (l : LocoId)
  | releaseForce (t : SegmentId) (l : LocoId)
  | setBlocked (t : SegmentId) (b : Bool)
  | setOrientation (t : SegmentId) (o : Orientation)
  | setSensorState (s : SensorId) (state : Occupancy)
  | reserveRoute (r : RouteId) (l : LocoId)
  | lockRoute (r : RouteId) (l : LocoId)
  | releaseRoute (r : RouteId) (l : LocoId)
  deriving DecidableEq, Repr

/-- The answer to an operation. -/
inductive Answer where
  /-- The configuration was changed. -/
  | done
  /-- The configuration was not changed. -/
  | refused (e : LayoutError)
  /-- Whether an operation on locks, settings or sensors was accepted. -/
  | accepted (b : Bool)
  deriving DecidableEq, Repr

/-- The answer to a change of the configuration. -/
def Answer.ofChange : Except LayoutError Unit → Answer
  | .ok _ => done
  | .error e => refused e

/-- The answer to a change of the configuration, and the layout after it. -/
def changed (x : Except LayoutError Unit × Layout) : Answer × Layout := (.ofChange x.1, x.2)

/-- The answer to an operation that may be refused without a reason, and the
layout after it. -/
def answered (x : Bool × Layout) : Answer × Layout := (.accepted x.1, x.2)

/-- The answer to a call and the layout after it. -/
def call (L : Layout) : Call → Answer × Layout
  | .addSensor c => changed (L.addSensor c)
  | .addAccessory c => changed (L.addAccessory c)
  | .addLoco c => (.done, L.addLoco c)
  | .addSegment c => changed (L.addSegment c)
  | .updateSegment c => changed (L.updateSegment c)
  | .addRoute c => changed (L.addRoute c)
  | .deleteSensor id => changed (L.deleteSensor id)
  | .deleteAccessory id => changed (L.deleteAccessory id)
  | .deleteLoco id => changed (L.deleteLoco id)
  | .deleteSegment id => changed (L.deleteSegment id)
  | .deleteRoute id => changed (L.deleteRoute id)
  | .reserve t l => answered (L.callSegment t (.reserve l))
  | .reserveForce t l => answered (L.callSegment t (.reserveForce l))
  | .lock t l => answered (L.callSegment t (.lock l))
  | .release t l => answered (L.callSegment t (.release l))
  | .releaseForce t l => answered (L.callSegment t (.releaseForce l))
  | .setBlocked t b => answered (L.callSegment t (.setBlocked b))
  | .setOrientation t o => answered (L.callSegment t (.setOrientation o))
  | .setSensorState s state => answered (L.setSensorState s state)
  | .reserveRoute r l => answered (L.reserveRoute r l)
  | .lockRoute r l => answered (L.lockRoute r l)
  | .releaseRoute r l => answered (L.releaseRoute r l)

/-- The layout after a run of calls. -/
def run (L : Layout) (calls : List Call) : Layout :=
  calls.foldl (fun L c => (L.call c).2) L

end Interlocking.Layout
