/-
What is sent to and from the web interface.

Requests name a loco, a flag or a state; the one question that can be asked
comes as a query. Every answer is wrapped: it says whether the request could
be handled, and then holds the data, or a message if it could not.
-/
import Interlocking.Web.Escape
import Interlocking.Wire.Status

set_option autoImplicit false

namespace Interlocking.Web

/-! ## Requests -/

/-- The body of a request on behalf of a loco. -/
structure LocoRequest where
  loco : LocoId
  /-- Whether to act against the holder. -/
  force : Bool := false
  deriving DecidableEq, Repr

/-- The body of a request to close or open a segment. -/
structure BlockedRequest where
  blocked : Bool
  deriving DecidableEq, Repr

/-- The body of a sensor report. -/
structure ReportRequest where
  state : Occupancy
  deriving DecidableEq, Repr

/-- The question for the routes of a loco. -/
structure RouteQuery where
  loco : LocoId
  /-- Whether the loco may turn; if nothing is said, a push-pull train may. -/
  allowTurn : Option Bool := none
  approach : Approach := .systemDefault
  deriving DecidableEq, Repr

/-- The form of a request on behalf of a loco. -/
def LocoRequest.form : Json.Form LocoRequest :=
  .record LocoRequest.mk <|
    .field { name := "loco", get := loco, form := Ident.form .loco } <|
    .field { name := "force", get := force, form := .flag, absent := some false } <|
    .done

/-- The form of a request to close or open a segment. -/
def BlockedRequest.form : Json.Form BlockedRequest :=
  .record BlockedRequest.mk <|
    .field { name := "blocked", get := blocked, form := .flag } <|
    .done

/-- The form of a sensor report. -/
def ReportRequest.form : Json.Form ReportRequest :=
  .record ReportRequest.mk <|
    .field { name := "state", get := state, form := .vocabulary Occupancy } <|
    .done

/-- The form of the question for routes. -/
def RouteQuery.form : Json.Form RouteQuery :=
  .record RouteQuery.mk <|
    .field { name := "loco", get := loco, form := Ident.form .loco } <|
    .field { name := "allow_turn", get := allowTurn, form := .option .flag, absent := some none } <|
    .field { name := "approach", get := approach, form := .vocabulary Approach, absent := some default } <|
    .done

/-! ## The question as a query -/

namespace RouteQuery

/-- Reads a flag in a query. -/
def flag? : String → Option Bool
  | "true" => some true
  | "false" => some false
  | _ => none

/-- What has been read of a query. -/
structure Draft where
  loco : Option LocoId := none
  allowTurn : Option Bool := none
  approach : Option Approach := none
  deriving DecidableEq, Repr

/-- Reads a pair. A name that was there before is refused, and so is a value
of the wrong form; unknown names are passed over. -/
def Draft.take (d : Draft) : Option String × Option String → Option Draft
  | (some "loco", value) =>
    match d.loco, value.bind Decimal.word? with
    | none, some n => some { d with loco := some ⟨n⟩ }
    | _, _ => none
  | (some "allow_turn", value) =>
    match d.allowTurn, value.bind flag? with
    | none, some b => some { d with allowTurn := some b }
    | _, _ => none
  | (some "approach", value) =>
    match d.approach, value.bind Enumeration.ofName? with
    | none, some a => some { d with approach := some a }
    | _, _ => none
  | _ => some d

/-- Reads the question from a query; the loco has to be named. -/
def ofQuery? (query : List Char) : Option RouteQuery := do
  let d ← (queryPairs query).foldlM Draft.take {}
  let loco ← d.loco
  return { loco := loco, allowTurn := d.allowTurn, approach := d.approach.getD .systemDefault }

end RouteQuery

/-! ## Answers -/

/-- The answer to a command. -/
structure CommandResult where
  accepted : Bool
  /-- What was done, or what was not. -/
  result : String
  deriving DecidableEq, Repr

/-- The answer to a command whose name is `action`. -/
def CommandResult.ofOutcome (accepted : Bool) (action : String) : CommandResult :=
  { accepted := accepted, result := if accepted then action else action ++ "_rejected" }

/-- The answer to the question for routes. -/
structure RoutesResult where
  origin : SegmentId
  /-- The approach in effect. -/
  approach : Approach
  /-- The routes, best first. -/
  routes : List RouteId
  deriving DecidableEq, Repr

/-- An answer with data of type `α`. -/
structure Answer (α : Type) where
  success : Bool
  data : Option α := none
  error : Option String := none
  deriving DecidableEq, Repr

/-- The answer with data. -/
def Answer.ofData {α : Type} (a : α) : Answer α := { success := true, data := some a }

/-- The answer that something cannot be handled. -/
def Answer.failure {α : Type} (message : String) : Answer α :=
  { success := false, error := some message }

/-- The form of the answer to a command. -/
def CommandResult.form : Json.Form CommandResult :=
  .record CommandResult.mk <|
    .field { name := "accepted", get := accepted, form := .flag } <|
    .field { name := "result", get := result, form := .text } <|
    .done

/-- The form of the answer to the question for routes. -/
def RoutesResult.form : Json.Form RoutesResult :=
  .record RoutesResult.mk <|
    .field { name := "track", get := origin, form := Ident.form .segment } <|
    .field { name := "approach", get := approach, form := .vocabulary Approach } <|
    .field { name := "routes", get := routes, form := .list (Ident.form .route) } <|
    .done

/-- The form of an answer; what is not there is not written. -/
def Answer.form {α : Type} (f : Json.Form α) : Json.Form (Answer α) :=
  .record Answer.mk <|
    .field { name := "success", get := success, form := .flag } <|
    .field
      { name := "data", get := data, form := .option f, absent := some none, short := none,
        hidden := Option.isNone } <|
    .field
      { name := "error", get := error, form := .option .text, absent := some none, short := none,
        hidden := Option.isNone } <|
    .done

end Interlocking.Web
