/-
The JSON forms of the objects on a layout.

These are the configurations that are exchanged with the outside. Ids are
plain numbers, vocabularies are names, and most fields may be left out and
then have the value that a new object has.

An item of a route is an object that names its own kind in the member `type`,
wherever that member stands. What the other members are is known only when the
kind is, so they are kept until the end of the object first, and to be kept
they have to be more than well-formed.
-/
import Interlocking.Json.Record
import Interlocking.Route
import Interlocking.Segment.Basic

set_option autoImplicit false

namespace Interlocking

/-! ## Ids -/

/-- An id is written as its number. -/
def Ident.form (k : Kind) : Json.Form (Ident k) :=
  (Json.Form.word UInt32).map Ident.mk Ident.number

/-! ## Sensors, locos, accessories, segments -/

/-- The form of a sensor. -/
def SensorConfig.form : Json.Form SensorConfig :=
  .record SensorConfig.mk <|
    .field { name := "id", get := id, form := Ident.form .sensor } <|
    .field { name := "name", get := name, form := .text } <|
    .field { name := "address", get := address, form := .word UInt16 } <|
    .done

/-- The form of a loco. -/
def Loco.form : Json.Form Loco :=
  .record Loco.mk <|
    .field { name := "id", get := id, form := Ident.form .loco } <|
    .field { name := "name", get := name, form := .text } <|
    .field { name := "length", get := length, form := .word UInt16, absent := some 0 } <|
    .field { name := "push_pull", get := pushPull, form := .flag, absent := some false } <|
    .done

/-- The form of an accessory. -/
def AccessoryConfig.form : Json.Form AccessoryConfig :=
  .record AccessoryConfig.mk <|
    .field { name := "id", get := id, form := Ident.form .accessory } <|
    .field { name := "name", get := name, form := .text } <|
    .field { name := "kind", get := kind, form := .vocabulary AccessoryKind, absent := some default } <|
    .field { name := "protocol", get := protocol, form := .vocabulary Protocol, absent := some default } <|
    .field { name := "address", get := address, form := .word UInt16 } <|
    .field { name := "state", get := output, form := .vocabulary Output, absent := some default } <|
    .done

/-- The form of a segment. -/
def SegmentConfig.form : Json.Form SegmentConfig :=
  .record SegmentConfig.mk <|
    .field { name := "id", get := id, form := Ident.form .segment } <|
    .field { name := "name", get := name, form := .text } <|
    .field { name := "kind", get := kind, form := .vocabulary SegmentKind, absent := some default } <|
    .field { name := "length", get := length, form := .word UInt16 } <|
    .field { name := "feedbacks", get := sensors, form := .list (Ident.form .sensor), absent := some [] } <|
    .field { name := "release_when_free", get := releaseWhenFree, form := .flag, absent := some false } <|
    .field { name := "approach", get := approach, form := .vocabulary Approach, absent := some default } <|
    .field { name := "blocked", get := blocked, form := .flag, absent := some false } <|
    .field
      { name := "orientation", get := orientation, form := .vocabulary Orientation, absent := some default } <|
    .done

/-! ## Items of routes -/

namespace PathItem

/-- The two kinds of items. -/
inductive Tag where
  | accessory
  | segment
  deriving DecidableEq, Repr

instance : Enumeration Tag where
  all := [.accessory, .segment]
  name
    | .accessory => "accessory"
    | .segment => "track"
  mem_all a := by cases a <;> decide
  name_inj a b := by cases a <;> cases b <;> decide

/-- The form of the kind of an item. -/
def Tag.form : Json.Form Tag := .named Tag

/-- An output that has been kept. The value beside a name may also be an empty
object there. -/
def keptOutput : Json.Form Output where
  write o := .string o.name
  read
    | .object [(some s, .object [] true)] true =>
      match Enumeration.ofName? s with
      | some o => .ok o
      | none => .error .unfit
    | v => (Json.Form.vocabulary Output).read v

/-- The members of an item that is an accessory. -/
def accessoryForm : Json.Form (AccessoryId × Output) :=
  .record Prod.mk <|
    .field { name := "id", get := Prod.fst, form := Ident.form .accessory } <|
    .field { name := "state", get := Prod.snd, form := keptOutput } <|
    .done

/-- The members of an item that is a segment. -/
def segmentForm : Json.Form SegmentId :=
  .record (fun id => id) <|
    .field { name := "id", get := fun id => id, form := Ident.form .segment } <|
    .done

/-- Reads the members of an item of a known kind. They have been kept, so that
a fault in them is no fault of the text. -/
def ofKept (members : Json.Draft) : Tag → Except Json.Fault PathItem
  | .accessory =>
    match accessoryForm.read members with
    | .ok (id, output) => .ok (.accessory id output)
    | .error _ => .error .unfit
  | .segment =>
    match segmentForm.read members with
    | .ok id => .ok (.segment id)
    | .error _ => .error .unfit

/-- Looks for the kind among members and keeps the others, last first. -/
def sortMembers (room : Nat) : List (Option String × Json.Draft) → Option Tag →
    List (Option String × Json.Draft) →
    Except Json.Fault (Option Tag × List (Option String × Json.Draft))
  | [], tag, kept => .ok (tag, kept)
  | (none, _) :: _, _, _ => .error .malformed
  | (some key, v) :: rest, tag, kept =>
    if key = "type" then
      match tag, Tag.form.read v with
      | some _, _ => .error .unfit
      | none, .ok t => sortMembers room rest (some t) kept
      | none, .error e => .error e
    else if v.keepable room then sortMembers room rest tag ((some key, v) :: kept)
    else .error .malformed

/-- The form of an item. What is kept may hold `room` containers one inside
the other. -/
def form (room : Nat) : Json.Form PathItem where
  write
    | .accessory id output =>
      .object (("type", .string "accessory") ::
        [("id", (Ident.form .accessory).write id), ("state", .string output.name)])
    | .segment id =>
      .object (("type", .string "track") :: [("id", (Ident.form .segment).write id)])
  read
    | .object members closed =>
      match sortMembers room members none [] with
      | .error e => .error e
      | .ok (tag, kept) =>
        match closed, tag with
        | false, _ => .error .malformed
        | true, none => .error .unfit
        | true, some tag => ofKept (.object kept.reverse true) tag
    | .array (t :: rest) closed =>
      match Tag.form.read t with
      | .error e => .error e
      | .ok tag =>
        if closed && rest.all (Json.Draft.keepable room) then ofKept (.array rest true) tag
        else .error .malformed
    | .array [] closed => .error (if closed then .unfit else .malformed)
    | v => .error v.mismatch

end PathItem

/-! ## Routes -/

/-- How many containers may be open at one time around and inside a value that
has to be kept. -/
def keptDepth : Nat := 127

/-- The form of an item that stands alone. -/
def PathItem.aloneForm : Json.Form PathItem := form (keptDepth - 1)

/-- The form of the sensors at which a train changes its speed. -/
def SpeedSensors.form : Json.Form SpeedSensors :=
  let sensor := Json.Form.option (Ident.form .sensor)
  .record SpeedSensors.mk <|
    .field { name := "reduced", get := reduced, form := sensor, absent := some none } <|
    .field { name := "creep", get := creep, form := sensor, absent := some none } <|
    .field { name := "stop", get := stop, form := sensor, absent := some none } <|
    .field { name := "over", get := overrun, form := sensor, absent := some none } <|
    .done

/-- The form of a route. Around an item there are two more containers, the
list of items and the route. -/
def RouteConfig.form : Json.Form RouteConfig :=
  .record RouteConfig.mk <|
    .field { name := "id", get := id, form := Ident.form .route } <|
    .field { name := "name", get := name, form := .text } <|
    .field { name := "priority", get := priority, form := .word UInt8, absent := some 0 } <|
    .field { name := "from_track", get := origin, form := Ident.form .segment } <|
    .field
      { name := "from_orientation", get := departure, form := .vocabulary Orientation,
        absent := some default } <|
    .field { name := "to_track", get := destination, form := Ident.form .segment } <|
    .field
      { name := "to_orientation", get := arrival, form := .vocabulary Orientation,
        absent := some default } <|
    .field
      { name := "relations", get := items, form := .list (PathItem.form (keptDepth - 3)),
        absent := some [] } <|
    .field
      { name := "speed_sensors", get := speedSensors, form := SpeedSensors.form, absent := some {} } <|
    .field
      { name := "min_train_length", get := minTrainLength, form := .word UInt16, absent := some 0 } <|
    .field
      { name := "max_train_length", get := maxTrainLength, form := .word UInt16, absent := some 0 } <|
    .field { name := "pushpull", get := trains, form := .vocabulary TrainFilter, absent := some default } <|
    .done

end Interlocking
