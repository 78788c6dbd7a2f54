/-
The calls on a segment.

Whatever happens to a segment from outside is one of the calls below. A run of
calls is a list, so "after any sequence of operations" is a statement about
`Segment.run`.
-/
import Interlocking.Segment.Basic

set_option autoImplicit false

namespace Interlocking.Segment

/-- A call on a segment. -/
inductive Call where
  | reserve (l : LocoId)
  | reserveForce (l : LocoId)
  | lock (l : LocoId)
  | unlock (l : LocoId)
  | release (l : LocoId)
  | releaseForce (l : LocoId)
  | unreserve (l : LocoId)
  | setSensorState (s : SensorId) (state : Occupancy)
  | setSensors (sensors : List (SensorId × Occupancy))
  | addRoute (r : RouteId) (priority : UInt8)
  | removeRoute (r : RouteId)
  | setName (name : String)
  | setKind (kind : SegmentKind)
  | setLength (length : UInt16)
  | setReleaseWhenFree (b : Bool)
  | setApproach (a : Approach)
  | setOrientation (o : Orientation)
  | setBlocked (b : Bool)
  deriving DecidableEq, Repr

/-- A setting that cannot be refused counts as accepted. -/
def Outcome.accepted (o : Outcome Unit) : Outcome Bool := ⟨true, o.segment, o.notice⟩

/-- The outcome of a call. -/
def call (g : Segment) : Call → Outcome Bool
  | .reserve l =>
    match g.tryReserve l with
    | some (_, g') => silently true g'
    | none => silently false g
  | .reserveForce l => g.reserveForce l
  | .lock l =>
    let o := g.tryLock l
    ⟨o.answer.isSome, o.segment, o.notice⟩
  | .unlock l => g.unlock l
  | .release l => g.release l
  | .releaseForce _ => g.releaseForce
  | .unreserve l => g.unreserve l
  | .setSensorState s state => g.setSensorState s state
  | .setSensors sensors => (g.setSensors sensors).accepted
  | .addRoute r priority =>
    let (answer, g') := g.addRoute r priority
    silently answer g'
  | .removeRoute r =>
    let (answer, g') := g.removeRoute r
    silently answer g'
  | .setName name => silently true { g with name := name }
  | .setKind kind => silently true { g with kind := kind }
  | .setLength length => silently true { g with length := clampLength length }
  | .setReleaseWhenFree b => silently true { g with releaseWhenFree := b }
  | .setApproach a => silently true { g with approach := a }
  | .setOrientation o => (g.setOrientation o).accepted
  | .setBlocked b => (g.setBlocked b).accepted

/-- The segment after a run of calls. -/
def run (g : Segment) (calls : List Call) : Segment :=
  calls.foldl (fun g c => (g.call c).segment) g

@[simp] theorem run_nil (g : Segment) : g.run [] = g := rfl

@[simp] theorem run_cons (g : Segment) (c : Call) (calls : List Call) :
    g.run (c :: calls) = (g.call c).segment.run calls := rfl

@[simp] theorem run_append (g : Segment) (calls more : List Call) :
    g.run (calls ++ more) = (g.run calls).run more := by
  simp only [run, List.foldl_append]

end Interlocking.Segment
