/-
Registration: adding, changing and deleting objects.

The references between objects are kept whole: an object is added only when
everything it refers to is there, and deleted only when nothing refers to it.
Two references are kept from both ends: a sensor knows the segment that lists
it, and a segment knows the routes that touch it.

Attaching the sensors of a segment goes one by one and puts back what it did
when one of them cannot be had.
-/
import Interlocking.Layout.Claim

set_option autoImplicit false

namespace Interlocking.Layout

/-! ## Sensors -/

/-- Adds a sensor. -/
def addSensor (c : SensorConfig) (L : Layout) : Except LayoutError Unit × Layout :=
  if L.sensors.contains c.id then (.error (.alreadyExists c.id.key), L)
  else (.ok (), { L with sensors := L.sensors.insert c.id (.ofConfig c) })

/-- Deletes a sensor that belongs to no segment and that no route watches. -/
def deleteSensor (id : SensorId) (L : Layout) : Except LayoutError Unit × Layout :=
  match L.sensors.get? id with
  | none => (.error (.notFound id.key), L)
  | some s =>
    if s.owner.isSome || L.routes.values.any fun r => r.config.speedSensors.toList.contains id then
      (.error (.inUse id.key), L)
    else (.ok (), { L with sensors := L.sensors.erase id })

/-! ## Accessories -/

/-- Adds an accessory. -/
def addAccessory (c : AccessoryConfig) (L : Layout) : Except LayoutError Unit × Layout :=
  if L.accessories.contains c.id then (.error (.alreadyExists c.id.key), L)
  else (.ok (), { L with accessories := L.accessories.insert c.id (.ofConfig c) })

/-- Deletes an accessory that nobody holds and no route needs. -/
def deleteAccessory (id : AccessoryId) (L : Layout) : Except LayoutError Unit × Layout :=
  match L.accessories.get? id with
  | none => (.error (.notFound id.key), L)
  | some a =>
    if !a.lock.isFree || L.routes.values.any fun r => id ∈ r.config.accessories.map Prod.fst then
      (.error (.inUse id.key), L)
    else (.ok (), { L with accessories := L.accessories.erase id })

/-! ## Locos -/

/-- Adds a loco, in place of the one with its id. -/
def addLoco (c : Loco) (L : Layout) : Layout :=
  { L with locos := L.locos.insert c.id c }

/-- Deletes a loco that holds no segment and waits to release none. -/
def deleteLoco (id : LocoId) (L : Layout) : Except LayoutError Unit × Layout :=
  if !L.locos.contains id then (.error (.notFound id.key), L)
  else if L.segments.values.any fun g =>
      g.lock.holder? = some id || g.pendingRelease = some id then
    (.error (.inUse id.key), L)
  else (.ok (), { L with locos := L.locos.erase id })

/-! ## Sensors of a segment -/

/-- Changes a registered sensor. -/
def modifySensor (id : SensorId) (change : Sensor → Sensor) (L : Layout) : Layout :=
  { L with sensors := L.sensors.modify id change }

/-- Takes sensors from a segment. -/
def detachAll (t : SegmentId) (ids : List SensorId) (L : Layout) : Layout :=
  ids.foldl (fun L id => L.modifySensor id (Sensor.detach t)) L

/-- The first sensor that is listed a second time. -/
def firstRepeated : List SensorId → Option SensorId :=
  go []
where
  /-- Looks for a sensor among those already seen. -/
  go (seen : List SensorId) : List SensorId → Option SensorId
    | [] => none
    | id :: ids => if id ∈ seen then some id else go (id :: seen) ids

/-- Gives sensors to a segment one after another. If one cannot be had, those
that this call gave are taken away again. -/
def attachEach (t : SegmentId) : List SensorId → Layout → Except LayoutError Unit × Layout
  | [], L => (.ok (), L)
  | id :: ids, L =>
    match L.sensors.get? id with
    | none => (.error (.notFound id.key), L)
    | some s =>
      match s.attach t with
      | none => (.error (.sensorInUse id (s.owner.getD t)), L)
      | some s' =>
        match attachEach t ids { L with sensors := L.sensors.insert id s' } with
        | (.ok _, L') => (.ok (), L')
        | (.error e, L') =>
          (.error e, if s.owner = some t then L' else L'.modifySensor id (Sensor.detach t))

/-- The registered ones of some sensors, with their states. -/
def sensorStates (ids : List SensorId) (L : Layout) : List (SensorId × Occupancy) :=
  ids.filterMap fun id => (L.sensors.get? id).map fun s => (id, s.state)

/-- Gives all the sensors of a list to a segment, and answers them with their
states. A sensor that is listed twice is an error. -/
def attachAll (t : SegmentId) (ids : List SensorId) (L : Layout) :
    Except LayoutError (List (SensorId × Occupancy)) × Layout :=
  match firstRepeated ids with
  | some id => (.error (.duplicateSensor id t), L)
  | none =>
    match L.attachEach t ids with
    | (.ok _, L') => (.ok (L'.sensorStates ids), L')
    | (.error e, L') => (.error e, L')

/-! ## Segments -/

/-- Whether a length is one that a segment can have. -/
def validLength (n : UInt16) : Bool := minLength ≤ n && n ≤ maxLength

/-- Adds a segment. Observers hear of it if it is occupied from the start. -/
def addSegment (c : SegmentConfig) (L : Layout) : Except LayoutError Unit × Layout :=
  if !validLength c.length then (.error (.invalidLength c.length), L)
  else if L.segments.contains c.id then (.error (.alreadyExists c.id.key), L)
  else
    match L.attachAll c.id c.sensors with
    | (.error e, L') => (.error e, L')
    | (.ok sensors, L') =>
      let o := (Segment.ofConfig c).setSensors sensors
      let L' := L'.notifyAll o.notice
      (.ok (), { L' with segments := L'.segments.insert c.id o.segment })

/-- The settings of a configuration as calls, in the order in which they are
applied. -/
def settingCalls (c : SegmentConfig) (sensors : List (SensorId × Occupancy)) :
    List Segment.Call :=
  [.setName c.name, .setKind c.kind, .setLength c.length, .setReleaseWhenFree c.releaseWhenFree,
   .setApproach c.approach, .setOrientation c.orientation, .setBlocked c.blocked,
   .setSensors sensors]

/-- Makes calls on a segment one after another, whatever they answer. -/
def callAll (id : SegmentId) (calls : List Segment.Call) (L : Layout) : Layout :=
  calls.foldl (fun L call => (L.callSegment id call).2) L

/-- Gives a segment a new configuration. Reservations stay; sensors that are
no longer listed are let go. -/
def updateSegment (c : SegmentConfig) (L : Layout) : Except LayoutError Unit × Layout :=
  if !validLength c.length then (.error (.invalidLength c.length), L)
  else
    match L.segments.get? c.id with
    | none => (.error (.notFound c.id.key), L)
    | some g =>
      match L.attachAll c.id c.sensors with
      | (.error e, L') => (.error e, L')
      | (.ok sensors, L') =>
        let dropped := g.sensorIds.filter fun s => !c.sensors.contains s
        (.ok (), (L'.detachAll c.id dropped).callAll c.id (settingCalls c sensors))

/-- Deletes a segment that nobody holds and no route touches. -/
def deleteSegment (id : SegmentId) (L : Layout) : Except LayoutError Unit × Layout :=
  match L.segments.get? id with
  | none => (.error (.notFound id.key), L)
  | some g =>
    if g.inUse || !g.routes.isEmpty then (.error (.inUse id.key), L)
    else
      let L := L.detachAll id g.sensorIds
      (.ok (), { L with
        segments := L.segments.erase id
        reaction := L.reaction.map fun r => { r with target := r.target.withdraw id g } })

/-! ## Routes -/

/-- The first thing that a route refers to and that is not there: accessories
first, then sensors, then segments. -/
def missingReference (c : RouteConfig) (L : Layout) : Option EntityKey :=
  ((c.accessories.map Prod.fst).find? fun a => !L.accessories.contains a).map Ident.key
  <|> (c.speedSensors.toList.find? fun s => !L.sensors.contains s).map Ident.key
  <|> (c.segments.find? fun t => !L.segments.contains t).map Ident.key

/-- Changes every segment of a list that is registered, without notices. -/
def modifySegments (ids : List SegmentId) (change : Segment → Segment) (L : Layout) : Layout :=
  ids.foldl (fun L t => { L with segments := L.segments.modify t change }) L

/-- Adds a route; everything it refers to has to be there. -/
def addRoute (c : RouteConfig) (L : Layout) : Except LayoutError Unit × Layout :=
  if L.routes.contains c.id then (.error (.alreadyExists c.id.key), L)
  else
    match L.missingReference c with
    | some key => (.error (.notFound key), L)
    | none =>
      let L := { L with routes := L.routes.insert c.id { config := c } }
      (.ok (), L.modifySegments c.segments fun g => (g.addRoute c.id c.priority).2)

/-- Deletes a route. -/
def deleteRoute (id : RouteId) (L : Layout) : Except LayoutError Unit × Layout :=
  match L.routes.get? id with
  | none => (.error (.notFound id.key), L)
  | some r =>
    let L := { L with routes := L.routes.erase id }
    (.ok (), L.modifySegments r.config.segments fun g => (g.removeRoute id).2)

/-! ## Sensor reports -/

/-- Applies a sensor report: the sensor remembers it, and its segment changes
accordingly. An unknown sensor is refused. -/
def setSensorState (id : SensorId) (state : Occupancy) (L : Layout) : Bool × Layout :=
  match L.sensors.get? id with
  | none => (false, L)
  | some s =>
    let ((_, owner), s') := s.report state fun owner => owner
    let L := { L with sensors := L.sensors.insert id s' }
    match owner with
    | none => (true, L)
    | some t => L.onSegment t true (Segment.setSensorState id state)

end Interlocking.Layout
