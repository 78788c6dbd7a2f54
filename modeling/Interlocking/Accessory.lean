/-
Accessories: switches, signals and other devices that a command moves.

An accessory is locked like a segment, but it has no occupancy: a release is
never put off. The state recorded here is the last one that the command
station accepted, it is not a report from the device.
-/
import Interlocking.Lock

set_option autoImplicit false

namespace Interlocking

/-! ## Vocabulary -/

/-- The two outputs of an accessory. -/
inductive Output where
  | off
  | on
  deriving DecidableEq, Repr, Inhabited

/-- The word for an output. -/
def Output.name : Output → String
  | off => "off"
  | on => "on"

instance : Enumeration Output where
  all := [.off, .on]
  name := Output.name
  mem_all a := by cases a <;> decide
  name_inj a b := by cases a <;> cases b <;> decide

/-- The output of a number; every number but that of `off` means `on`. -/
def Output.ofCode (n : UInt8) : Output := Enumeration.ofCode .on n

/-- What an accessory is. -/
inductive AccessoryKind where
  | accessory
  | switch
  | signal
  deriving DecidableEq, Repr, Inhabited

/-- The name of a kind. -/
def AccessoryKind.name : AccessoryKind → String
  | accessory => "accessory"
  | switch => "switch"
  | signal => "signal"

instance : Enumeration AccessoryKind where
  all := [.accessory, .switch, .signal]
  name := AccessoryKind.name
  mem_all a := by cases a <;> decide
  name_inj a b := by cases a <;> cases b <;> decide

/-- The kind of a number; an unknown number is a plain accessory. -/
def AccessoryKind.ofCode (n : UInt8) : AccessoryKind := Enumeration.ofCode .accessory n

/-- What an output means on a device of a kind. -/
def AccessoryKind.outputName : AccessoryKind → Output → String
  | switch, .off => "straight"
  | switch, .on => "turnout"
  | signal, .off => "stop"
  | signal, .on => "clear"
  | accessory, .off => "off"
  | accessory, .on => "on"

/-- The digital protocols in which accessories are addressed. -/
inductive Protocol where
  /-- Whatever the command station prefers. -/
  | auto
  | dcc
  | mm
  | sx
  deriving DecidableEq, Repr, Inhabited

/-- The name of a protocol. -/
def Protocol.name : Protocol → String
  | auto => "auto"
  | dcc => "dcc"
  | mm => "mm"
  | sx => "sx"

instance : Enumeration Protocol where
  all := [.auto, .dcc, .mm, .sx]
  name := Protocol.name
  mem_all a := by cases a <;> decide
  name_inj a b := by cases a <;> cases b <;> decide

/-! ## Accessories -/

/-- The configuration of an accessory. -/
structure AccessoryConfig where
  id : AccessoryId
  name : String
  kind : AccessoryKind := .accessory
  protocol : Protocol := .auto
  address : UInt16
  /-- The output it is taken to have. -/
  output : Output := .off
  deriving DecidableEq, Repr

/-- An accessory on the layout. -/
structure Accessory where
  config : AccessoryConfig
  lock : Lock := .free
  deriving DecidableEq, Repr

namespace Accessory

/-- The accessory of a configuration: nobody holds it. -/
def ofConfig (c : AccessoryConfig) : Accessory := { config := c }

/-- Reserves the accessory for a loco. -/
def tryReserve (l : LocoId) (a : Accessory) : Option (Grant × Accessory) :=
  (a.lock.reserve l).map fun k =>
    (if a.lock.holder? = some l then .held else .new, { a with lock := k })

/-- Locks the accessory; the answer tells whether this call turned a
reservation into a lock. -/
def tryLock (l : LocoId) (a : Accessory) : Option (Bool × Accessory) :=
  (a.lock.lock l).map fun k => (decide (a.lock = .reserved l), { a with lock := k })

/-- Records the output that a command has set. -/
def setOutput (o : Output) (a : Accessory) : Accessory :=
  { a with config := { a.config with output := o } }

/-- What the recorded output means on this device. -/
def outputName (a : Accessory) : String := a.config.kind.outputName a.config.output

/-! ## Calls

The calls that an operator or a program can make on one accessory. -/

/-- A call on an accessory. -/
inductive Call where
  | reserve (l : LocoId)
  | lock (l : LocoId)
  | unlock (l : LocoId)
  | release (l : LocoId)
  | unreserve (l : LocoId)
  | setOutput (o : Output)
  deriving DecidableEq, Repr

/-- Applies a change of the lock; a refusal leaves the accessory as it is. -/
def step (change : Lock → Option Lock) (a : Accessory) : Bool × Accessory :=
  match change a.lock with
  | some k => (true, { a with lock := k })
  | none => (false, a)

/-- The answer to a call and the accessory after it. -/
def call (a : Accessory) : Call → Bool × Accessory
  | .reserve l =>
    match a.tryReserve l with
    | some (_, a') => (true, a')
    | none => (false, a)
  | .lock l =>
    match a.tryLock l with
    | some (_, a') => (true, a')
    | none => (false, a)
  | .unlock l => a.step (Lock.unlock l)
  | .release l => a.step (Lock.release l)
  | .unreserve l => a.step (Lock.unreserve l)
  | .setOutput o => (true, a.setOutput o)

end Accessory
end Interlocking
