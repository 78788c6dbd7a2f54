/-
The stored form of each kind of object.

For every kind there is a pair of functions, and reading inverts writing for
every value. Reading accepts more: numbers in other spellings, missing fields
that have a default, blanks around the members of a list, and unknown numbers
of a vocabulary, which mean its fallback. Only a protocol has no fallback.

Where two fields are wrong at once, the order in which fields are read decides
which one the error names. Lists come first, because they are read before the
object is put together; an accessory's protocol comes first for the same
reason.
-/
import Interlocking.Fields.Basic

set_option autoImplicit false

namespace Interlocking

/-! ## Sensors -/

/-- The stored form of a sensor. -/
def SensorConfig.toFields (c : SensorConfig) : Fields :=
  Registry.ofList [("name", c.name), ("address", Decimal.text c.address)]

/-- Reads a sensor. -/
def SensorConfig.ofFields (id : SensorId) (f : Fields) : Except LayoutError SensorConfig := do
  let name ← f.text id.key "name"
  let address ← f.word id.key "address"
  return { id, name, address }

/-! ## Accessories -/

/-- The stored form of an accessory. -/
def AccessoryConfig.toFields (c : AccessoryConfig) : Fields :=
  Registry.ofList [("name", c.name), ("kind", Fields.ofCode c.kind),
    ("protocol", Fields.ofCode c.protocol), ("address", Decimal.text c.address),
    ("state", Fields.ofCode c.output)]

/-- The protocol of a stored number. -/
def Protocol.ofField (key : EntityKey) (n : UInt8) : Except LayoutError Protocol :=
  match Enumeration.ofCode? n with
  | some p => .ok p
  | none => Fields.invalid key "protocol"

/-- Reads an accessory. -/
def AccessoryConfig.ofFields (id : AccessoryId) (f : Fields) :
    Except LayoutError AccessoryConfig := do
  let protocol ← Protocol.ofField id.key (← f.wordOr id.key "protocol" 0)
  let name ← f.text id.key "name"
  let kind ← f.wordOr id.key "kind" 0
  let address ← f.word id.key "address"
  let output ← f.wordOr id.key "state" 0
  return {
    id, name, protocol, address
    kind := .ofCode kind
    output := .ofCode output }

/-! ## Locos -/

/-- The stored form of a loco. -/
def Loco.toFields (c : Loco) : Fields :=
  Registry.ofList [("name", c.name), ("length", Decimal.text c.length),
    ("pushpull", Fields.ofFlag c.pushPull)]

/-- Reads a loco. -/
def Loco.ofFields (id : LocoId) (f : Fields) : Except LayoutError Loco := do
  let name ← f.text id.key "name"
  let length ← f.wordOr id.key "length" 0
  let pushPull ← f.flag id.key "pushpull"
  return { id, name, length, pushPull }

/-! ## Segments -/

/-- The stored form of a segment. -/
def SegmentConfig.toFields (c : SegmentConfig) : Fields :=
  Registry.ofList [("name", c.name), ("kind", Fields.ofCode c.kind), ("length", Decimal.text c.length),
    ("feedbacks", Fields.ofMembers (fun s => Decimal.text s.number) c.sensors),
    ("releasewhenfree", Fields.ofFlag c.releaseWhenFree),
    ("selectrouteapproach", Fields.ofCode c.approach), ("blocked", Fields.ofFlag c.blocked),
    ("orientation", Fields.ofCode c.orientation)]

/-- Reads one member of a list of sensors. -/
def SensorId.ofMember? (s : String) : Option SensorId :=
  (Decimal.word? (Text.trim s)).map Ident.mk

/-- Reads a segment. -/
def SegmentConfig.ofFields (id : SegmentId) (f : Fields) : Except LayoutError SegmentConfig := do
  let sensors ← f.list id.key "feedbacks" SensorId.ofMember?
  let name ← f.text id.key "name"
  let kind ← f.wordOr id.key "kind" 0
  let length ← f.word id.key "length"
  let releaseWhenFree ← f.flag id.key "releasewhenfree"
  let approach ← f.wordOr id.key "selectrouteapproach" 0
  let blocked ← f.flag id.key "blocked"
  let orientation ← f.wordOr id.key "orientation" 1
  return {
    id, name, length, sensors, releaseWhenFree, blocked
    kind := .ofCode kind
    approach := .ofCode approach
    orientation := .ofCode orientation }

/-! ## Routes -/

/-- The written form of an item of a route: `a:id:output` or `t:id`. -/
def PathItem.toMember : PathItem → String
  | accessory id output =>
    "a:" ++ Decimal.text id.number ++ ":" ++ Decimal.text (Enumeration.code output)
  | segment id => "t:" ++ Decimal.text id.number

/-- Reads an item of a route. -/
def PathItem.ofMember? (s : String) : Option PathItem :=
  match (Text.split ':' (Text.trimChars s.toList)).map String.ofList with
  | ["a", id, output] => do
    let id ← Decimal.word? id
    let output ← Decimal.word? output
    return .accessory ⟨id⟩ (.ofCode output)
  | ["t", id] => do
    let id ← Decimal.word? id
    return .segment ⟨id⟩
  | _ => none

/-- The stored form of a route with its stamp. -/
def Route.toFields (r : Route) : Fields :=
  let c := r.config
  let sensor (s : Option SensorId) := Fields.ofOptional (s.map Ident.number)
  Registry.ofList [("name", c.name), ("priority", Decimal.text c.priority),
    ("fromtrack", Decimal.text c.origin.number), ("fromorientation", Fields.ofCode c.departure),
    ("totrack", Decimal.text c.destination.number), ("toorientation", Fields.ofCode c.arrival),
    ("relations", Fields.ofMembers PathItem.toMember c.items),
    ("feedbackreduced", sensor c.speedSensors.reduced),
    ("feedbackcreep", sensor c.speedSensors.creep), ("feedbackstop", sensor c.speedSensors.stop),
    ("feedbackover", sensor c.speedSensors.overrun),
    ("mintrainlength", Decimal.text c.minTrainLength),
    ("maxtrainlength", Decimal.text c.maxTrainLength), ("pushpull", Fields.ofCode c.trains),
    ("lastused", Decimal.text r.lastUsed)]

/-- Reads an optional sensor of a route. -/
def SensorId.ofField (f : Fields) (key : EntityKey) (field : String) :
    Except LayoutError (Option SensorId) :=
  (f.optional key field).map fun s => s.map Ident.mk

/-- Reads a route with its stamp. -/
def Route.ofFields (id : RouteId) (f : Fields) : Except LayoutError Route := do
  let items ← f.list id.key "relations" PathItem.ofMember?
  let reduced ← SensorId.ofField f id.key "feedbackreduced"
  let creep ← SensorId.ofField f id.key "feedbackcreep"
  let stop ← SensorId.ofField f id.key "feedbackstop"
  let overrun ← SensorId.ofField f id.key "feedbackover"
  let name ← f.text id.key "name"
  let origin ← f.word id.key "fromtrack"
  let destination ← f.word id.key "totrack"
  let priority ← f.wordOr id.key "priority" 0
  let departure ← f.wordOr id.key "fromorientation" 1
  let arrival ← f.wordOr id.key "toorientation" 1
  let minTrainLength ← f.wordOr id.key "mintrainlength" 0
  let maxTrainLength ← f.wordOr id.key "maxtrainlength" 0
  let trains ← f.wordOr id.key "pushpull" 0
  let lastUsed ← f.wordOr id.key "lastused" 0
  return {
    lastUsed
    config := {
      id, name, priority, items, minTrainLength, maxTrainLength
      origin := ⟨origin⟩
      departure := .ofCode departure
      destination := ⟨destination⟩
      arrival := .ofCode arrival
      speedSensors := { reduced, creep, stop, overrun }
      trains := .ofCode trains } }

end Interlocking
