/-
Claims: the things that a loco takes to run a route.

A route claims its items and its destination, in this order. The same thing
may be claimed more than once, because a route may list an item twice or run
over its own destination. A claim is taken, locked and given up through one
interface, whether it is a segment or an accessory.

Taking the claims of a route is all or nothing: a claim that cannot be had
puts back everything that was taken before it, in reverse order, including a
release that taking had called off.
-/
import Interlocking.Layout.Basic

set_option autoImplicit false

namespace Interlocking

/-- Something that a route claims. -/
inductive Claim where
  | segment (id : SegmentId)
  | accessory (id : AccessoryId)
  deriving DecidableEq, Repr

/-- The claim of an item. -/
def PathItem.claim : PathItem → Claim
  | accessory id _ => .accessory id
  | segment id => .segment id

/-- The claims of a route in the order in which they are taken. -/
def RouteConfig.claims (c : RouteConfig) : List Claim :=
  c.items.map PathItem.claim ++ [.segment c.destination]

namespace Layout

/-! ## One claim -/

/-- Whether the claimed thing is registered. -/
def knows (L : Layout) : Claim → Bool
  | .segment id => L.segments.contains id
  | .accessory id => L.accessories.contains id

/-- The lock on the claimed thing; nothing if it is not registered. -/
def lockOf? (L : Layout) : Claim → Option Lock
  | .segment id => (L.segments.get? id).map Segment.lock
  | .accessory id => (L.accessories.get? id).map Accessory.lock

/-- Whether a loco holds the claimed thing. -/
def holds (L : Layout) (l : LocoId) (c : Claim) : Bool :=
  (L.lockOf? c).bind Lock.holder? = some l

/-- Reserves one claimed thing. Nobody is told about reservations. -/
def take (l : LocoId) (c : Claim) (L : Layout) : Option (Grant × Layout) :=
  match c with
  | .segment id => do
    let g ← L.segments.get? id
    let (grant, g') ← g.tryReserve l
    return (grant, { L with segments := L.segments.insert id g' })
  | .accessory id => do
    let a ← L.accessories.get? id
    let (grant, a') ← a.tryReserve l
    return (grant, { L with accessories := L.accessories.insert id a' })

/-- Puts back what `take` did. -/
def putBack (l : LocoId) (c : Claim) (grant : Grant) (L : Layout) : Layout :=
  match grant, c with
  | .held, _ => L
  | .new, .segment id => (L.callSegment id (.unreserve l)).2
  | .new, .accessory id => (L.callAccessory id (.unreserve l)).2
  | .heldPendingCancelled, .segment id =>
    (L.onSegment id () (Segment.restorePendingRelease l)).2
  | .heldPendingCancelled, .accessory _ => L

/-- Locks one claimed thing for its holder; the answer tells whether this call
turned a reservation into a lock, or that the loco does not hold it. -/
def lockClaim (l : LocoId) (c : Claim) (L : Layout) : Option Bool × Layout :=
  match c with
  | .segment id => L.onSegment id none (Segment.tryLock l)
  | .accessory id =>
    match (L.accessories.get? id).bind (Accessory.tryLock l) with
    | some (newly, a) => (some newly, { L with accessories := L.accessories.insert id a })
    | none => (none, L)

/-- Takes the lock on one claimed thing back to a reservation. -/
def unlockClaim (l : LocoId) (c : Claim) (L : Layout) : Layout :=
  match c with
  | .segment id => (L.callSegment id (.unlock l)).2
  | .accessory id => (L.callAccessory id (.unlock l)).2

/-- Gives one claimed thing up. -/
def releaseClaim (l : LocoId) (c : Claim) (L : Layout) : Layout :=
  match c with
  | .segment id => (L.callSegment id (.release l)).2
  | .accessory id => (L.callAccessory id (.release l)).2

/-! ## All claims of a route -/

/-- Takes claims one after another. If one cannot be had, everything taken
before it is put back, last first. -/
def takeAll (l : LocoId) : List Claim → Layout → Bool × Layout
  | [], L => (true, L)
  | c :: cs, L =>
    match L.take l c with
    | none => (false, L)
    | some (grant, L') =>
      match takeAll l cs L' with
      | (true, L'') => (true, L'')
      | (false, L'') => (false, L''.putBack l c grant)

/-- Locks claims one after another. If one is no longer held, every lock that
this call made is taken back, last first. -/
def lockAll (l : LocoId) : List Claim → Layout → Bool × Layout
  | [], L => (true, L)
  | c :: cs, L =>
    match L.lockClaim l c with
    | (none, L') => (false, L')
    | (some newly, L') =>
      match lockAll l cs L' with
      | (true, L'') => (true, L'')
      | (false, L'') => (false, if newly then L''.unlockClaim l c else L'')

/-- Gives up, one after another, the claims that the loco holds when their
turn comes. -/
def releaseHeld (l : LocoId) : List Claim → Layout → Layout
  | [], L => L
  | c :: cs, L => releaseHeld l cs (if L.holds l c then L.releaseClaim l c else L)

/-! ## Routes -/

/-- Reserves everything that a route claims, or nothing. -/
def reserveRoute (r : RouteId) (l : LocoId) (L : Layout) : Bool × Layout :=
  match L.routes.get? r with
  | none => (false, L)
  | some route =>
    let claims := route.config.claims
    if claims.all L.knows then L.takeAll l claims else (false, L)

/-- Commands the accessories of a route into their outputs, in order. An
output is recorded if the command station took the command. -/
def setAccessories : List (AccessoryId × Output) → Layout → Layout
  | [], L => L
  | (id, output) :: rest, L =>
    match L.accessories.get? id with
    | none => setAccessories rest L
    | some a =>
      let (answer, station) := L.station.send
        { protocol := a.config.protocol, address := a.config.address, output := output }
      let L := { L with station := station }
      match answer with
      | .ok _ =>
        setAccessories rest { L with accessories := L.accessories.insert id (a.setOutput output) }
      | .error _ => setAccessories rest L

/-- Counts a use of a route and stamps the route with the count. -/
def stampRoute (r : RouteId) (L : Layout) : Layout :=
  let count := L.useCounter + 1
  { L with
    useCounter := count
    routes := L.routes.modify r fun route => { route with lastUsed := count } }

/-- Locks everything that a route claims, if the loco holds all of it, then
sets the accessories and stamps the route. -/
def lockRoute (r : RouteId) (l : LocoId) (L : Layout) : Bool × Layout :=
  match L.routes.get? r with
  | none => (false, L)
  | some route =>
    let claims := route.config.claims
    if claims.all (L.holds l) then
      match L.lockAll l claims with
      | (false, L') => (false, L')
      | (true, L') => (true, (L'.setAccessories route.config.accessories).stampRoute r)
    else (false, L)

/-- Gives up what a loco holds of the items of a route. The destination stays
with the loco, which stands there now. -/
def releaseRoute (r : RouteId) (l : LocoId) (L : Layout) : Bool × Layout :=
  match L.routes.get? r with
  | none => (false, L)
  | some route =>
    let claims := route.config.items.map PathItem.claim
    if claims.all L.knows then (true, L.releaseHeld l claims) else (false, L)

end Layout
end Interlocking
