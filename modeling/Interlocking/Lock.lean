/-
Locks: who holds a segment or an accessory, and how firmly.

A loco first reserves what it is going to need and locks it when it sets out.
Both steps name the holder, and only the holder can go forward or back:

    free  --reserve-->  reserved  --lock-->  locked
      ^                  |    ^                |
      +----unreserve-----+    +----unlock------+
      +----------------release-----------------+

Every step below answers `none` when it is refused, so that a refusal cannot
change the lock.
-/
import Interlocking.Ident

set_option autoImplicit false

namespace Interlocking

/-- The state of something that at most one loco may hold. -/
inductive Lock where
  | free
  | reserved (loco : LocoId)
  | locked (loco : LocoId)
  deriving DecidableEq, Repr, Inhabited

/-- The stages of a lock without the holder. -/
inductive LockStage where
  | free
  | reserved
  | locked
  deriving DecidableEq, Repr

namespace Lock

/-- The loco that holds the lock. -/
def holder? : Lock → Option LocoId
  | free => none
  | reserved l => some l
  | locked l => some l

/-- Whether nobody holds the lock. -/
def isFree (k : Lock) : Bool := k.holder?.isNone

/-- Whether a loco other than `l` holds the lock. -/
def heldByOther (k : Lock) (l : LocoId) : Bool := k.holder?.any (· ≠ l)

/-- The stage of a lock. -/
def stage : Lock → LockStage
  | free => .free
  | reserved _ => .reserved
  | locked _ => .locked

/-! ## The steps -/

/-- Reserves a free lock. The holder may ask again and keeps what it has. -/
def reserve (l : LocoId) (k : Lock) : Option Lock :=
  match k.holder? with
  | none => some (reserved l)
  | some h => if h = l then some k else none

/-- Locks what `l` holds. -/
def lock (l : LocoId) (k : Lock) : Option Lock :=
  if k.holder? = some l then some (locked l) else none

/-- Frees what `l` holds. -/
def release (l : LocoId) (k : Lock) : Option Lock :=
  if k.holder? = some l then some free else none

/-- Frees what `l` has reserved and not locked. -/
def unreserve (l : LocoId) (k : Lock) : Option Lock :=
  if k = reserved l then some free else none

/-- Takes a lock of `l` back to a reservation. -/
def unlock (l : LocoId) (k : Lock) : Option Lock :=
  if k = locked l then some (reserved l) else none

end Lock

/-- What a loco got when it reserved something. -/
inductive Grant where
  /-- It was free and is reserved now. -/
  | new
  /-- The loco held it before. -/
  | held
  /-- The loco held it before and was about to give it up; that is off. -/
  | heldPendingCancelled
  deriving DecidableEq, Repr

end Interlocking
