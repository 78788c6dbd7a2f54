/-
Sensors: the contacts that tell whether a stretch of track is occupied.

A sensor belongs to at most one segment. It remembers its last report itself,
so that a segment to which it is attached later starts with the right state.
-/
import Interlocking.Ident
import Interlocking.Occupancy

set_option autoImplicit false

namespace Interlocking

/-- The configuration of a sensor. -/
structure SensorConfig where
  id : SensorId
  name : String
  address : UInt16
  deriving DecidableEq, Repr

/-- A sensor on the layout. -/
structure Sensor where
  config : SensorConfig
  /-- The last report. -/
  state : Occupancy := .free
  /-- The segment that the sensor belongs to. -/
  owner : Option SegmentId := none
  deriving DecidableEq, Repr

namespace Sensor

/-- The sensor of a configuration: it has reported nothing and belongs nowhere. -/
def ofConfig (c : SensorConfig) : Sensor := { config := c }

/-- Gives the sensor to a segment; refused if it belongs to another one. -/
def attach (t : SegmentId) (s : Sensor) : Option Sensor :=
  if s.owner = none ∨ s.owner = some t then some { s with owner := some t } else none

/-- Takes the sensor from a segment; nothing happens if it is not the owner. -/
def detach (t : SegmentId) (s : Sensor) : Sensor :=
  if s.owner = some t then { s with owner := none } else s

/-- Records a report and tells the owner: the answer holds the report before
this one and what `forward` made of the owner. -/
def report {α : Type} (state : Occupancy) (forward : Option SegmentId → α) (s : Sensor) :
    (Occupancy × α) × Sensor :=
  ((s.state, forward s.owner), { s with state := state })

end Sensor

/-! ## Locos -/

/-- A loco with its train. -/
structure Loco where
  id : LocoId
  name : String
  /-- The length of the train; zero if it is not known. -/
  length : UInt16 := 0
  /-- Whether the train can leave in either direction. -/
  pushPull : Bool := false
  deriving DecidableEq, Repr

end Interlocking
