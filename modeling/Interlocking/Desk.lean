/-
A desk: a layout together with everything that is connected to it.

Behind the desk there are a command station, stores under names, a queue for
sensor reports, and subscribers who receive the notices of the layout. A
subscriber that does not collect its notices in time loses the oldest ones and
is told how many.

The layout records its notices and the station its commands; at the end of
each step the desk takes both away and passes the notices on. A bare desk has
no observers and a station that remembers nothing.
-/
import Interlocking.Layout.Archive
import Interlocking.Settings
import Interlocking.Store.Any
import Interlocking.Web.Service

set_option autoImplicit false

namespace Interlocking

/-- How a desk is set up. -/
structure Desk.Setup where
  layout : LayoutSettings := {}
  /-- The protocols that the command station lacks. -/
  unsupported : List Protocol := []
  /-- How many notices are kept for a subscriber. -/
  capacity : Nat := 64
  /-- Whether the web interface is open to all. -/
  openToAll : Bool := true
  /-- Without observers, and with a station that remembers nothing. -/
  bare : Bool := false

/-- A layout with everything that is connected to it. -/
structure Desk where
  setup : Desk.Setup
  layout : Layout
  stores : Registry String AnyStore := .empty
  queue : ReportQueue := .absent
  /-- The notices that subscribers have not collected, oldest first. -/
  subscribers : Registry String (List Snapshot) := .empty

namespace Desk

/-! ## Setting up -/

/-- The empty layout of a setup. -/
def Setup.newLayout (s : Setup) : Layout :=
  { defaultApproach := s.layout.defaultApproach
    station := if s.bare then .silent else .recording s.unsupported false [] }

/-- A new desk. -/
def new (s : Setup) : Desk := { setup := s, layout := s.newLayout }

/-- Begins again with an empty layout. The stores stay. -/
def reset (d : Desk) : Desk := { new d.setup with stores := d.stores }

/-! ## The layout -/

/-- Does something with the layout. -/
def onLayout {α : Type} (act : Layout → α × Layout) (d : Desk) : α × Desk :=
  let (answer, L) := act d.layout
  (answer, { d with layout := L })

/-- Makes the next command to the station fail. -/
def failNext (d : Desk) : Desk :=
  { d with layout := { d.layout with station := d.layout.station.failNext } }

/-- Prepares a reaction on a registered segment, in place of the one that was
prepared before. Without observers it never happens. -/
def arm (trigger : SegmentId) (stage : LockStage) (target : SegmentId)
    (call : Option Segment.Call) (d : Desk) : Bool × Desk :=
  if d.layout.segments.contains target then
    let reaction := { trigger := trigger, stage := stage, target := .registered target, call := call }
    (true, if d.setup.bare then d else { d with layout := { d.layout with reaction := some reaction } })
  else (false, d)

/-! ## The end of a step -/

/-- What happened in a step. -/
structure Report where
  notices : List Snapshot
  commands : List Command
  deriving DecidableEq, Repr

/-- Takes away what was recorded in a step and passes it on. -/
def collect (d : Desk) : Report × Desk :=
  let notices := if d.setup.bare then [] else d.layout.notices
  let deliver (e : String × List Snapshot) := (e.1, e.2 ++ notices)
  ({ notices := notices, commands := d.layout.station.taken },
   { d with
     layout := { d.layout with notices := [], station := d.layout.station.forget }
     subscribers := .ofList (d.subscribers.entries.map deliver) })

/-! ## Subscribers -/

/-- Adds a subscriber, or lets one begin again, with nothing to collect. -/
def subscribe (name : String) (d : Desk) : Desk :=
  { d with subscribers := d.subscribers.insert name [] }

/-- What a subscriber collects. -/
structure Delivery where
  /-- How many notices were lost. -/
  lost : Nat
  notices : List Snapshot
  deriving DecidableEq, Repr

/-- The last notices that fit, and the number of those that do not. -/
def Delivery.ofUnread (capacity : Nat) (unread : List Snapshot) : Delivery :=
  let lost := unread.length - capacity
  { lost := lost, notices := unread.drop lost }

/-- How many notices are really kept: at least one, and a power of two. -/
def Setup.room (s : Setup) : Nat := (max 1 s.capacity).nextPowerOfTwo

/-- Collects the notices of a subscriber; nothing if there is none of the
name. -/
def drain (name : String) (d : Desk) : Option Delivery × Desk :=
  match d.subscribers.get? name with
  | none => (none, d)
  | some unread =>
    (some (.ofUnread d.setup.room unread), { d with subscribers := d.subscribers.insert name [] })

/-! ## Stores -/

/-- The store of a name; an empty one in memory if there is none. -/
def store (d : Desk) (name : String) : AnyStore := (d.stores.get? name).getD default

/-- Puts a store under a name. -/
def setStore (name : String) (s : AnyStore) (d : Desk) : Desk :=
  { d with stores := d.stores.insert name s }

/-- Saves the layout to a store. -/
def save (name : String) (d : Desk) : Except StoreError Unit × Desk :=
  let (answer, s) := d.layout.save (d.store name)
  (answer, d.setStore name s)

/-- Loads a store into the layout. -/
def load (name : String) (d : Desk) : Except StoreError Unit × Desk :=
  d.onLayout (Layout.load (d.store name))

/-! ## The web interface and the queue for reports -/

/-- Handles a request. -/
def serve [Shuffling] (r : Web.Request) (d : Desk) : Web.Response × Desk :=
  d.onLayout (Web.serve d.setup.openToAll d.queue r)

/-- Starts a queue, in place of the one before. -/
def startQueue (d : Desk) : Desk := { d with queue := .running }

/-- Puts a report into the queue, where it is applied at once; refused by a
queue that has stopped, and nothing if there is none. -/
def enqueue (s : SensorId) (state : Occupancy) (d : Desk) : Option Bool × Desk :=
  match d.queue with
  | .absent => (none, d)
  | .running => (some true, { d with layout := (d.layout.setSensorState s state).2 })
  | .stopped => (some false, d)

/-- Stops the queue, which then refuses reports. -/
def stopQueue (d : Desk) : Desk :=
  match d.queue with
  | .absent => d
  | .running | .stopped => { d with queue := .stopped }

/-- Takes the queue away. -/
def removeQueue (d : Desk) : Desk := { d with queue := .absent }

end Desk
end Interlocking
