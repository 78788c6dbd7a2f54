/-
The addresses of the web interface, and the commands behind them.

A request goes through two stages. The first one looks at the request alone:
it finds the place that the path names, the id in the path and what the query
or the body says, and ends with a command or with a refusal. The second stage
looks at the layout, and only for a command.

The checks of the first stage come in a fixed order, so that a request with
two faults has one answer: the path, the method, the id in the path, and then
the query, or the media type of the body, its length and the body.
-/
import Interlocking.Web.MediaType
import Interlocking.Web.Message

set_option autoImplicit false

namespace Interlocking.Web

/-! ## Requests -/

/-- A request to the web interface. All of it is text. Bodies that are not UTF-8
and media types that are no text are left out: the library of the server deals
with them, and no layout is asked. -/
structure Request where
  method : String
  /-- The path, and after a question mark the query. In front of the path there
  may be a scheme and a host. -/
  target : String
  contentType : Option String := none
  body : String := ""
  deriving DecidableEq, Repr

namespace Request

/-- What a target says on this host: the target without scheme and host. A
target that is a host alone says nothing. -/
def onThisHost : List Char → List Char
  | '/' :: cs => '/' :: cs
  | cs =>
    match cs.dropWhile (· ≠ ':') with
    | ':' :: '/' :: '/' :: rest => rest.dropWhile fun c => c ≠ '/' && c ≠ '?'
    | _ => []

/-- The target on this host, without what stands behind a number sign. -/
def address (r : Request) : List Char := onThisHost (r.target.toList.takeWhile (· ≠ '#'))

/-- The path of the target. -/
def path (r : Request) : List Char := r.address.takeWhile (· ≠ '?')

/-- The query of the target; empty if there is none. -/
def query (r : Request) : List Char := (r.address.dropWhile (· ≠ '?')).drop 1

end Request

/-! ## Places -/

/-- What can be asked of a segment by its name in a path. -/
inductive SegmentVerb where
  | reserve
  | lock
  | release
  | block
  deriving DecidableEq, Repr

/-- What can be asked of a route by its name in a path. -/
inductive RouteVerb where
  | reserve
  | lock
  | release
  deriving DecidableEq, Repr

/-- A place that paths lead to, with the id as it stands in the path. -/
inductive Place where
  | segments
  | segment (id : List Char)
  | segmentVerb (verb : SegmentVerb) (id : List Char)
  | segmentRoutes (id : List Char)
  | routeVerb (verb : RouteVerb) (id : List Char)
  | sensor (id : List Char)
  deriving DecidableEq, Repr

namespace Place

/-- The place of the parts of a path. An id at the end of a path is not empty. -/
def ofParts? : List (List Char) → Option Place
  | [first, api, kind] =>
    if first.isEmpty && api = "api".toList && kind = "tracks".toList then some segments else none
  | [first, api, kind, id] =>
    if first.isEmpty && api = "api".toList && !id.isEmpty then
      if kind = "tracks".toList then some (segment id)
      else if kind = "feedback".toList then some (sensor id)
      else none
    else none
  | [first, api, kind, id, verb] =>
    if first.isEmpty && api = "api".toList then
      match String.ofList kind, String.ofList verb with
      | "tracks", "reserve" => some (segmentVerb .reserve id)
      | "tracks", "lock" => some (segmentVerb .lock id)
      | "tracks", "release" => some (segmentVerb .release id)
      | "tracks", "blocked" => some (segmentVerb .block id)
      | "tracks", "routes" => some (segmentRoutes id)
      | "routes", "reserve" => some (routeVerb .reserve id)
      | "routes", "lock" => some (routeVerb .lock id)
      | "routes", "release" => some (routeVerb .release id)
      | _, _ => none
    else none
  | _ => none

/-- The place that a path leads to. -/
def ofPath? (path : List Char) : Option Place := ofParts? (Text.split '/' path)

/-- Whether a place answers questions; the others take commands. -/
def answers : Place → Bool
  | segments | segment _ | segmentRoutes _ => true
  | segmentVerb .. | routeVerb .. | sensor _ => false

/-- Whether a method fits a place. -/
def admits (p : Place) (method : String) : Bool :=
  if p.answers then method = "GET" || method = "HEAD" else method = "POST"

end Place

/-! ## Commands -/

/-- What a request asks for. -/
inductive Command where
  | listSegments
  | showSegment (t : SegmentId)
  | showRoutes (t : SegmentId) (query : RouteQuery)
  | reserve (t : SegmentId) (r : LocoRequest)
  | lock (t : SegmentId) (r : LocoRequest)
  | release (t : SegmentId) (r : LocoRequest)
  | setBlocked (t : SegmentId) (r : BlockedRequest)
  | reserveRoute (r : RouteId) (q : LocoRequest)
  | lockRoute (r : RouteId) (q : LocoRequest)
  | releaseRoute (r : RouteId) (q : LocoRequest)
  | report (s : SensorId) (r : ReportRequest)
  deriving DecidableEq, Repr

/-- Why a request asks for nothing. -/
inductive Refusal where
  /-- The path leads nowhere. -/
  | noPlace
  /-- The place does not know the method. -/
  | wrongMethod
  /-- The id, the query or the text of the body is malformed. -/
  | malformed
  /-- The body is not said to be JSON. -/
  | wrongMediaType
  /-- The body is longer than what is read of one. -/
  | tooLong
  /-- The body is JSON of the wrong form. -/
  | unfit
  deriving DecidableEq, Repr

/-- The refusal of a body that could not be read. -/
def Refusal.ofFault : Json.Fault → Refusal
  | .malformed => malformed
  | .unfit => unfit

namespace Request

/-- Reads an id in the path. -/
def ident (k : Kind) (id : List Char) : Except Refusal (Ident k) :=
  match (unescape id).bind Decimal.word? with
  | some n => .ok ⟨n⟩
  | none => .error .malformed

/-- The number of bytes that a body may have. -/
def bodyLimit : Nat := 2097152

/-- Reads the body. What follows the JSON value in it is not looked at. -/
def read {α : Type} (r : Request) (f : Json.Form α) : Except Refusal α :=
  if declaresJson r.contentType then
    if bodyLimit < r.body.utf8ByteSize then .error .tooLong
    else
      match f.decodeFirst r.body with
      | .ok a => .ok a
      | .error e => .error (.ofFault e)
  else .error .wrongMediaType

/-- Reads the query for routes. -/
def routeQuery (r : Request) : Except Refusal RouteQuery :=
  match RouteQuery.ofQuery? r.query with
  | some q => .ok q
  | none => .error .malformed

/-- What the request asks of a place. -/
def commandAt (r : Request) : Place → Except Refusal Command
  | .segments => .ok .listSegments
  | .segment id => do
    return .showSegment (← ident .segment id)
  | .segmentRoutes id => do
    return .showRoutes (← ident .segment id) (← r.routeQuery)
  | .segmentVerb .reserve id => do
    return .reserve (← ident .segment id) (← r.read LocoRequest.form)
  | .segmentVerb .lock id => do
    return .lock (← ident .segment id) (← r.read LocoRequest.form)
  | .segmentVerb .release id => do
    return .release (← ident .segment id) (← r.read LocoRequest.form)
  | .segmentVerb .block id => do
    return .setBlocked (← ident .segment id) (← r.read BlockedRequest.form)
  | .routeVerb .reserve id => do
    return .reserveRoute (← ident .route id) (← r.read LocoRequest.form)
  | .routeVerb .lock id => do
    return .lockRoute (← ident .route id) (← r.read LocoRequest.form)
  | .routeVerb .release id => do
    return .releaseRoute (← ident .route id) (← r.read LocoRequest.form)
  | .sensor id => do
    return .report (← ident .sensor id) (← r.read ReportRequest.form)

/-- What the request asks for. -/
def command (r : Request) : Except Refusal Command :=
  match Place.ofPath? r.path with
  | none => .error .noPlace
  | some p => if p.admits r.method then r.commandAt p else .error .wrongMethod

end Request
end Interlocking.Web
