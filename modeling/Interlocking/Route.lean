/-
Routes: the ways from one segment to another.

A route leaves its origin with the loco facing one way and arrives at its
destination. In between it runs over items: segments that it needs and
accessories that it needs in a certain output. A loco claims the items and the
destination, never the origin, on which it stands.
-/
import Interlocking.Accessory
import Interlocking.Orientation

set_option autoImplicit false

namespace Interlocking

/-- Which trains a route is for. -/
inductive TrainFilter where
  | both
  /-- Push-pull trains only. -/
  | only
  /-- All but push-pull trains. -/
  | no
  deriving DecidableEq, Repr, Inhabited

/-- The name of a filter. -/
def TrainFilter.name : TrainFilter → String
  | both => "both"
  | only => "only"
  | no => "no"

instance : Enumeration TrainFilter where
  all := [.both, .only, .no]
  name := TrainFilter.name
  mem_all a := by cases a <;> decide
  name_inj a b := by cases a <;> cases b <;> decide

/-- The filter of a number; an unknown number admits all trains. -/
def TrainFilter.ofCode (n : UInt8) : TrainFilter := Enumeration.ofCode .both n

/-- Whether a train may take the route, by whether it is a push-pull train. -/
def TrainFilter.accepts : TrainFilter → Bool → Bool
  | both, _ => true
  | only, pushPull => pushPull
  | no, pushPull => !pushPull

/-- Something that a route needs on its way. -/
inductive PathItem where
  /-- An accessory, and the output it has to have. -/
  | accessory (id : AccessoryId) (output : Output)
  | segment (id : SegmentId)
  deriving DecidableEq, Repr

/-- The sensors at which a train on the route changes its speed. -/
structure SpeedSensors where
  reduced : Option SensorId := none
  creep : Option SensorId := none
  stop : Option SensorId := none
  overrun : Option SensorId := none
  deriving DecidableEq, Repr, Inhabited

/-- The sensors that are given, in the order in which a train meets them. -/
def SpeedSensors.toList (s : SpeedSensors) : List SensorId :=
  [s.reduced, s.creep, s.stop, s.overrun].filterMap fun x => x

/-- The configuration of a route. -/
structure RouteConfig where
  id : RouteId
  name : String
  /-- The place among the routes of a segment; smaller numbers come first. -/
  priority : UInt8 := 0
  origin : SegmentId
  /-- Which way the loco has to face to leave. -/
  departure : Orientation := .right
  destination : SegmentId
  /-- Which way the loco faces on arrival. -/
  arrival : Orientation := .right
  /-- What the route needs on its way, in order. -/
  items : List PathItem := []
  speedSensors : SpeedSensors := {}
  /-- The shortest train that may take the route; zero for no bound. -/
  minTrainLength : UInt16 := 0
  /-- The longest train that may take the route; zero for no bound. -/
  maxTrainLength : UInt16 := 0
  trains : TrainFilter := .both
  deriving DecidableEq, Repr

/-- A route on the layout. -/
structure Route where
  config : RouteConfig
  /-- When the route was last locked, counted in uses of routes; zero for never. -/
  lastUsed : UInt64 := 0
  deriving DecidableEq, Repr

namespace RouteConfig

/-- Whether a train of a length may take the route. Trains of unknown length
may, and a bound of zero is no bound. -/
def fitsLength (c : RouteConfig) (length : UInt16) : Bool :=
  length = 0 ||
    (c.minTrainLength = 0 || c.minTrainLength ≤ length) &&
    (c.maxTrainLength = 0 || length ≤ c.maxTrainLength)

/-- The segments that the route touches: origin, items, destination. -/
def segments (c : RouteConfig) : List SegmentId :=
  c.origin :: c.items.filterMap (fun | .segment id => some id | .accessory .. => none)
    ++ [c.destination]

/-- The accessories that the route needs with their outputs, in order. -/
def accessories (c : RouteConfig) : List (AccessoryId × Output) :=
  c.items.filterMap fun | .accessory id output => some (id, output) | .segment _ => none

end RouteConfig
end Interlocking
