/-
Layouts: everything that is registered, and how it changes.

A layout holds the objects of the five kinds by id, and they refer to each
other by id only. Three further parts belong to its state because operations
change them in passing: the command station, the count of route uses, and the
list of notices that observers were sent.

An observer may answer a notice by a call on a segment, while the operation
that sent the notice is still under way. Such an answer is prepared in advance
as a `Reaction`, happens once, and is the only way in which anything interferes
with an operation. A layout without a prepared reaction just records its
notices.
-/
import Interlocking.CommandStation
import Interlocking.Registry
import Interlocking.Route
import Interlocking.Segment.Call

set_option autoImplicit false

namespace Interlocking

/-! ## Errors -/

/-- Why a change of the configuration was refused. -/
inductive LayoutError where
  | notFound (key : EntityKey)
  | alreadyExists (key : EntityKey)
  | inUse (key : EntityKey)
  /-- The sensor belongs to another segment. -/
  | sensorInUse (sensor : SensorId) (owner : SegmentId)
  /-- The sensor is listed twice. -/
  | duplicateSensor (sensor : SensorId) (segment : SegmentId)
  | invalidLength (length : UInt16)
  /-- A stored field is missing or malformed. -/
  | invalidField (key : EntityKey) (field : String)
  deriving DecidableEq, Repr

/-- The message for people. -/
def LayoutError.message : LayoutError → String
  | notFound key => key.text ++ " not found"
  | alreadyExists key => key.text ++ " already exists"
  | inUse key => key.text ++ " is in use"
  | sensorInUse sensor owner =>
    "feedback " ++ sensor.text ++ " already belongs to track " ++ owner.text
  | duplicateSensor sensor segment =>
    "feedback " ++ sensor.text ++ " listed twice on track " ++ segment.text
  | invalidLength length => "invalid track length " ++ Decimal.text length
  | invalidField key field => key.text ++ ": invalid field '" ++ field ++ "'"

/-! ## State -/

/-- The segment that a reaction is about. It stays the same object when it is
removed from the layout while the reaction is still waiting. -/
inductive Reaction.Target where
  | registered (id : SegmentId)
  | removed (g : Segment)
  deriving DecidableEq, Repr

/-- What a waiting reaction is about after a segment has been removed. -/
def Reaction.Target.withdraw (id : SegmentId) (g : Segment) : Reaction.Target → Reaction.Target
  | .registered t => if t = id then .removed g else .registered t
  | .removed g' => .removed g'

/-- What an observer does at the next notice about `trigger` at the stage
`stage`. -/
structure Reaction where
  trigger : SegmentId
  stage : LockStage
  target : Reaction.Target
  /-- The call on the target; nothing if the observer only looks at it. -/
  call : Option Segment.Call
  deriving DecidableEq, Repr

/-- A layout. -/
structure Layout where
  /-- The approach where neither the request nor the segment has one. -/
  defaultApproach : Approach := .doNotCare
  sensors : Registry SensorId Sensor := .empty
  accessories : Registry AccessoryId Accessory := .empty
  locos : Registry LocoId Loco := .empty
  segments : Registry SegmentId Segment := .empty
  routes : Registry RouteId Route := .empty
  /-- How often routes have been locked. -/
  useCounter : UInt64 := 0
  station : CommandStation := .silent
  /-- The notices sent, oldest first. -/
  notices : List Snapshot := []
  reaction : Option Reaction := none
  deriving DecidableEq

namespace Layout

/-- The layout without objects. -/
def empty : Layout := {}

instance : Inhabited Layout := ⟨empty⟩

/-! ## Notices -/

/-- Records a notice without giving anybody a chance to react. -/
def record (s : Snapshot) (L : Layout) : Layout :=
  { L with notices := L.notices ++ [s] }

/-- Records the notice that a change calls for, if any. -/
def recordAll (notice : Option Snapshot) (L : Layout) : Layout :=
  match notice with
  | some s => L.record s
  | none => L

/-- Lets a reaction happen. Its own notice is recorded; a second reaction
cannot be waiting, so it ends here. -/
def react (r : Reaction) (L : Layout) : Layout :=
  match r.call, r.target with
  | none, _ => L
  | some c, .removed g => L.recordAll (g.call c).notice
  | some c, .registered id =>
    match L.segments.get? id with
    | none => L
    | some g =>
      let o := g.call c
      { L with segments := L.segments.insert id o.segment }.recordAll o.notice

/-- Sends a notice: it is recorded, and a reaction that waits for it happens. -/
def notify (s : Snapshot) (L : Layout) : Layout :=
  let L := L.record s
  match L.reaction with
  | some r =>
    if r.trigger = s.id ∧ r.stage = s.lock.stage then { L with reaction := none }.react r else L
  | none => L

/-- Sends the notice that a change calls for, if any. -/
def notifyAll (notice : Option Snapshot) (L : Layout) : Layout :=
  match notice with
  | some s => L.notify s
  | none => L

/-! ## Changing one object -/

/-- Changes a registered segment and sends the notice that the change calls
for. Nothing happens to an unknown segment, and the answer is `unknown`. -/
def onSegment {α : Type} (id : SegmentId) (unknown : α) (change : Segment → Segment.Outcome α)
    (L : Layout) : α × Layout :=
  match L.segments.get? id with
  | none => (unknown, L)
  | some g =>
    let o := change g
    (o.answer, { L with segments := L.segments.insert id o.segment }.notifyAll o.notice)

/-- A call on a registered segment; an unknown one refuses. -/
def callSegment (id : SegmentId) (c : Segment.Call) (L : Layout) : Bool × Layout :=
  L.onSegment id false fun g => g.call c

/-- A call on a registered accessory; an unknown one refuses. -/
def callAccessory (id : AccessoryId) (c : Accessory.Call) (L : Layout) : Bool × Layout :=
  match L.accessories.get? id with
  | none => (false, L)
  | some a =>
    let (answer, a') := a.call c
    (answer, { L with accessories := L.accessories.insert id a' })

/-- The snapshots of all segments, by ascending id. -/
def snapshots (L : Layout) : List Snapshot := L.segments.values.map Segment.snapshot

end Layout
end Interlocking
