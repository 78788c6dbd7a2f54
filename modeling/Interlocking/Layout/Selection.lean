/-
Selection: which routes a loco is offered, and in which order.

A route is offered if the loco could reserve all of it at this moment and the
train fits. The offered routes are ordered by the approach in effect; routes
that the approach does not tell apart keep the order in which the segment
lists them. The random approach shuffles them, and how it does so is left open
(`Shuffling`).
-/
import Interlocking.Layout.Claim

set_option autoImplicit false

namespace Interlocking

/-! ## Order -/

/-- An offered route with what approaches look at. -/
structure Candidate where
  route : RouteId
  /-- The length of the destination. -/
  length : UInt16
  lastUsed : UInt64
  deriving DecidableEq, Repr

/-- Sorts by ascending key; equal keys keep their order. -/
def sortByKey {α : Type} (key : α → Nat) (xs : List α) : List α :=
  xs.mergeSort fun x y => key x ≤ key y

/-- A way to shuffle candidates. Nothing is known of it but that no candidate
is lost, added or doubled, so what is said of a selection holds whatever order
comes up. -/
class Shuffling where
  shuffle : List Candidate → List Candidate
  shuffle_perm (cs : List Candidate) : (shuffle cs).Perm cs

/-- The way that is taken where a result is computed: by ascending id. -/
instance Shuffling.byId : Shuffling where
  shuffle := sortByKey fun c => c.route.number.toNat
  shuffle_perm cs := List.mergeSort_perm cs _

/-- Puts candidates into the order of an approach. A deferring approach keeps
the order. -/
def Approach.order [Shuffling] : Approach → List Candidate → List Candidate
  | systemDefault, cs => cs
  | doNotCare, cs => cs
  | random, cs => Shuffling.shuffle cs
  | minTrackLength, cs => sortByKey (fun c => c.length.toNat) cs
  | longestUnused, cs => sortByKey (fun c => c.lastUsed.toNat) cs

/-! ## Fitness -/

namespace Layout

/-- Whether a loco could reserve a segment. -/
def segmentFree (L : Layout) (l : LocoId) (id : SegmentId) : Bool :=
  (L.segments.get? id).any fun g => !g.blocked && !g.lock.heldByOther l

/-- Whether a loco could reserve an accessory, and the command station could
set it. -/
def accessoryFree (L : Layout) (l : LocoId) (id : AccessoryId) : Bool :=
  (L.accessories.get? id).any fun a =>
    !a.lock.heldByOther l && L.station.supports a.config.protocol

/-- Whether a loco could reserve an item and have it set. -/
def itemFree (L : Layout) (l : LocoId) : PathItem → Bool
  | .accessory id _ => L.accessoryFree l id
  | .segment id => L.segmentFree l id

/-- What decides whether a train fits a route; an unknown loco has a train of
unknown length that is not a push-pull train. -/
def train (L : Layout) (l : LocoId) : UInt16 × Bool :=
  ((L.locos.get? l).map fun x => (x.length, x.pushPull)).getD (0, false)

/-- Whether a route is offered to a loco on a segment. -/
def offers (L : Layout) (g : Segment) (l : LocoId) (allowTurn : Bool) (c : RouteConfig) : Bool :=
  c.origin = g.id &&
    (c.departure = g.orientation || allowTurn) &&
    L.segmentFree l c.destination &&
    c.items.all (L.itemFree l) &&
    c.fitsLength (L.train l).1 &&
    c.trains.accepts (L.train l).2

/-- The candidate that a noted route is, if it is offered. -/
def candidate? (L : Layout) (g : Segment) (l : LocoId) (allowTurn : Bool) (r : RouteId) :
    Option Candidate := do
  let route ← L.routes.get? r
  let destination ← L.segments.get? route.config.destination
  if L.offers g l allowTurn route.config then
    some { route := r, length := destination.length, lastUsed := route.lastUsed }
  else none

/-- The approach in effect for routes that leave a segment. -/
def approachFor (L : Layout) (g : Segment) (asked : Approach) : Approach :=
  asked.resolve [g.approach, L.defaultApproach]

/-- The routes offered to a loco on a segment, best first; none on an unknown
segment. -/
def selectRoutes [Shuffling] (L : Layout) (t : SegmentId) (l : LocoId) (allowTurn : Bool)
    (asked : Approach) : List RouteId :=
  match L.segments.get? t with
  | none => []
  | some g =>
    let candidates := g.routeIds.filterMap (L.candidate? g l allowTurn)
    ((L.approachFor g asked).order candidates).map Candidate.route

/-- The routes offered to a loco that may turn exactly if it runs a push-pull
train. -/
def selectRoutesForLoco [Shuffling] (L : Layout) (t : SegmentId) (l : LocoId) (asked : Approach) :
    List RouteId :=
  L.selectRoutes t l (L.train l).2 asked

end Layout
end Interlocking
