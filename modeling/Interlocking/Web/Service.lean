/-
The web interface of a layout.

Every request has one response. A command that the layout does not accept is
answered like one that it does, with a different word; only what cannot be
handled at all has another status.

Sensor reports have two ways into the layout. As long as reports are collected
in a queue, the interface puts them into the queue like everybody else and
does not wait for what becomes of them. Otherwise it applies them itself.
-/
import Interlocking.Layout.Call
import Interlocking.Web.Endpoint

set_option autoImplicit false

namespace Interlocking

/-- The queue for sensor reports. -/
inductive ReportQueue where
  /-- There is none. -/
  | absent
  /-- Reports are taken and applied in order. -/
  | running
  /-- Reports are refused, because nobody applies them any more. -/
  | stopped
  deriving DecidableEq, Repr, Inhabited

namespace Web

/-! ## Responses -/

/-- A response. -/
structure Response where
  status : Nat
  /-- The body; nothing if there is none, or none in JSON. -/
  body : Option Json := none
  /-- Whether pages from anywhere may read the response. -/
  openToAll : Bool := false

namespace Response

/-- The response that a request could be handled. -/
def ofData {α : Type} (f : Json.Form α) (a : α) : Response :=
  { status := 200, body := some ((Answer.form f).write (.ofData a)) }

/-- The response that a request cannot be handled. -/
def failure (status : Nat) (message : String) : Response :=
  { status := status, body := some ((Answer.form Json.Form.text).write (.failure message)) }

/-- The response to a command. -/
def outcome (accepted : Bool) (action : String) : Response :=
  .ofData CommandResult.form (.ofOutcome accepted action)

/-- The response that an object is not registered. -/
def notFound {k : Kind} (id : Ident k) : Response := failure 404 (id.text ++ " not found")

/-- The response to a request that asks for nothing. -/
def ofRefusal : Refusal → Response
  | .noPlace => failure 404 "Not found"
  | .wrongMethod => { status := 405 }
  | .malformed => { status := 400 }
  | .wrongMediaType => { status := 415 }
  | .tooLong => { status := 413 }
  | .unfit => { status := 422 }

end Response

/-! ## Commands -/

/-- Carries out a call that answers with yes or no, if what it is about is
registered. -/
def carryOut {k : Kind} (id : Ident k) (registered : Bool) (action : String)
    (call : Layout → Bool × Layout) (L : Layout) : Response × Layout :=
  if registered then
    let (accepted, L') := call L
    (.outcome accepted action, L')
  else (.notFound id, L)

/-- The routes of a loco on a segment with the approach in effect. -/
def routesResult [Shuffling] (g : Segment) (q : RouteQuery) (L : Layout) : RoutesResult where
  origin := g.id
  approach := L.approachFor g q.approach
  routes :=
    match q.allowTurn with
    | some allowTurn => L.selectRoutes g.id q.loco allowTurn q.approach
    | none => L.selectRoutesForLoco g.id q.loco q.approach

/-- Takes a report of a registered sensor. -/
def takeReport (queue : ReportQueue) (s : SensorId) (state : Occupancy) (L : Layout) :
    Response × Layout :=
  match queue with
  | .absent =>
    let (accepted, L') := L.setSensorState s state
    (.outcome accepted state.name, L')
  | .running => (.outcome true "queued", (L.setSensorState s state).2)
  | .stopped => (.failure 503 "feedback relay stopped", L)

/-- The response to a command and the layout after it. -/
def Command.run [Shuffling] (queue : ReportQueue) (L : Layout) : Command → Response × Layout
  | .listSegments => (.ofData (.list Snapshot.form) L.snapshots, L)
  | .showSegment t =>
    match L.segments.get? t with
    | some g => (.ofData Snapshot.form g.snapshot, L)
    | none => (.notFound t, L)
  | .showRoutes t q =>
    match L.segments.get? t with
    | some g => (.ofData RoutesResult.form (routesResult g q L), L)
    | none => (.notFound t, L)
  | .reserve t q =>
    if q.force then
      carryOut t (L.segments.contains t) "reserve_force" (·.callSegment t (.reserveForce q.loco)) L
    else carryOut t (L.segments.contains t) "reserve" (·.callSegment t (.reserve q.loco)) L
  | .lock t q => carryOut t (L.segments.contains t) "lock" (·.callSegment t (.lock q.loco)) L
  | .release t q =>
    if q.force then
      carryOut t (L.segments.contains t) "release_force" (·.callSegment t (.releaseForce q.loco)) L
    else carryOut t (L.segments.contains t) "release" (·.callSegment t (.release q.loco)) L
  | .setBlocked t q =>
    carryOut t (L.segments.contains t) (if q.blocked then "blocked" else "unblocked")
      (·.callSegment t (.setBlocked q.blocked)) L
  | .reserveRoute r q =>
    carryOut r (L.routes.contains r) "reserve_route" (·.reserveRoute r q.loco) L
  | .lockRoute r q => carryOut r (L.routes.contains r) "lock_route" (·.lockRoute r q.loco) L
  | .releaseRoute r q =>
    carryOut r (L.routes.contains r) "release_route" (·.releaseRoute r q.loco) L
  | .report s q =>
    if L.sensors.contains s then takeReport queue s q.state L else (.notFound s, L)

/-! ## Requests -/

/-- The response to a request and the layout after it, for readers from the
same place. A request for the head of a response gets it without the body; a
refusal is the same for everybody. -/
def handle [Shuffling] (queue : ReportQueue) (r : Request) (L : Layout) : Response × Layout :=
  match r.command with
  | .ok c =>
    let (response, L') := c.run queue L
    (if r.method = "HEAD" then { response with body := none } else response, L')
  | .error e => (.ofRefusal e, L)

/-- The response to a request and the layout after it. An interface that is
open to all says so in every response, and to those who only ask whether it is
it says nothing else. -/
def serve [Shuffling] (openToAll : Bool) (queue : ReportQueue) (r : Request) (L : Layout) :
    Response × Layout :=
  if openToAll && r.method = "OPTIONS" then ({ status := 200, openToAll := true }, L)
  else
    let (response, L') := handle queue r L
    ({ response with openToAll := openToAll }, L')

end Web
end Interlocking
