/-
Messages of a broker.

A broker carries texts under topics. Sensors report under
`<base>/feedback/<id>/set`, and segments are announced under
`<base>/track/<id>/state`, where the base is a setting and may itself contain
slashes. A report is a word for a state, in bytes.
-/
import Interlocking.Ident
import Interlocking.Occupancy
import Interlocking.Settings

set_option autoImplicit false

namespace Interlocking.Broker

/-! ## Topics -/

/-- What stands behind the base in the topic of a report, up to the id. -/
def reportMark : List Char := "/feedback/".toList

/-- What stands behind the id in the topic of a report. -/
def reportEnd : List Char := "/set".toList

/-- What is left of a list of characters behind a beginning; nothing if it
begins otherwise. -/
def behind : List Char → List Char → Option (List Char)
  | [], cs => some cs
  | _ :: _, [] => none
  | b :: bs, c :: cs => if b = c then behind bs cs else none

/-- What is left of a list of characters in front of an ending; nothing if it
ends otherwise. -/
def before (ending cs : List Char) : Option (List Char) :=
  (behind ending.reverse cs.reverse).map List.reverse

/-- The topic of the reports of a sensor. -/
def reportTopic (base : String) (s : SensorId) : String :=
  String.ofList (base.toList ++ reportMark ++ Decimal.chars s.number.toNat ++ reportEnd)

/-- The sensor whose reports have a topic. -/
def sensorOfTopic? (base topic : String) : Option SensorId := do
  let rest ← behind base.toList topic.toList
  let rest ← behind reportMark rest
  let id ← before reportEnd rest
  let number ← Decimal.word? (String.ofList id)
  return ⟨number⟩

/-- The topic of the announcements of a segment. -/
def stateTopic (base : String) (t : SegmentId) : String :=
  String.ofList
    (base.toList ++ "/track/".toList ++ Decimal.chars t.number.toNat ++ "/state".toList)

/-! ## Reports -/

/-- The state that a report says. -/
def stateOfPayload? (payload : ByteArray) : Option Occupancy :=
  (String.fromUTF8? payload).bind Occupancy.parse?

/-! ## Errors -/

/-- Why there is no connection to a broker. -/
inductive Error where
  /-- The broker did not take a subscription. -/
  | subscribe (reason : String)
  deriving DecidableEq, Repr

/-- The message for people. -/
def Error.message : Error → String
  | subscribe reason => "mqtt subscribe failed: " ++ reason

end Interlocking.Broker
