/-
The command station: the device that moves accessories.

The layout hands every command to a command station. A station may lack a
protocol, and a command may fail; neither is the layout's business beyond not
recording an output that was not set. Two stations are enough to run a layout
without devices: one that takes everything and remembers nothing, and one that
remembers what it took and can be told to lack protocols and to fail. What a
station with devices answers is not for the layout to know, so for such a
station the answers are given in advance.
-/
import Interlocking.Accessory

set_option autoImplicit false

namespace Interlocking

/-- A command for an accessory. -/
structure Command where
  protocol : Protocol
  address : UInt16
  output : Output
  deriving DecidableEq, Repr

/-- Why a command was not carried out. -/
inductive CommandError where
  | unsupportedProtocol (p : Protocol)
  | notConnected
  | transmit (reason : String)
  deriving DecidableEq, Repr

/-- The name of a protocol in a message. -/
def Protocol.title : Protocol → String
  | auto => "Auto"
  | dcc => "Dcc"
  | mm => "Mm"
  | sx => "Sx"

/-- The message for people. -/
def CommandError.message : CommandError → String
  | unsupportedProtocol p => "protocol " ++ p.title ++ " not supported"
  | notConnected => "hardware not connected"
  | transmit reason => "transmit error: " ++ reason

/-- A command station. -/
inductive CommandStation where
  /-- Takes every command and remembers none. -/
  | silent
  /-- Remembers the commands it took, oldest first. `failing` makes the next
  command of a supported protocol fail. -/
  | recording (unsupported : List Protocol) (failing : Bool) (taken : List Command)
  /-- Any other station. `outcomes` says what comes of the next commands, where
  nothing is no error; later commands are taken. `tried` holds the commands sent
  so far and what came of them, oldest first. -/
  | device (lacks : List Protocol) (outcomes : List (Option CommandError))
      (tried : List (Command × Option CommandError))
  deriving DecidableEq, Repr

namespace CommandStation

/-- Whether the station speaks a protocol. -/
def supports : CommandStation → Protocol → Bool
  | silent, _ => true
  | recording unsupported _ _, p => decide (p ∉ unsupported)
  | device lacks _ _, p => decide (p ∉ lacks)

/-- The answer that stands for an outcome. -/
def answer : Option CommandError → Except CommandError Unit
  | none => .ok ()
  | some e => .error e

/-- Sends a command. A recording station refuses a protocol that it lacks first,
and then does not use up a failure that was asked for. -/
def send (c : Command) : CommandStation → Except CommandError Unit × CommandStation
  | silent => (.ok (), silent)
  | recording unsupported failing taken =>
    if c.protocol ∈ unsupported then
      (.error (.unsupportedProtocol c.protocol), recording unsupported failing taken)
    else if failing then (.error .notConnected, recording unsupported false taken)
    else (.ok (), recording unsupported false (taken ++ [c]))
  | device lacks outcomes tried =>
    let outcome := outcomes.head?.join
    (answer outcome, device lacks outcomes.tail (tried ++ [(c, outcome)]))

/-- Makes the next command fail. -/
def failNext : CommandStation → CommandStation
  | silent => silent
  | recording unsupported _ taken => recording unsupported true taken
  | device lacks outcomes tried => device lacks (some .notConnected :: outcomes) tried

/-- The commands taken so far, oldest first. -/
def taken : CommandStation → List Command
  | silent => []
  | recording _ _ taken => taken
  | device _ _ tried => (tried.filter fun x => x.2.isNone).map Prod.fst

/-- Forgets the commands taken so far. -/
def forget : CommandStation → CommandStation
  | silent => silent
  | recording unsupported failing _ => recording unsupported failing []
  | device lacks outcomes _ => device lacks outcomes []

end CommandStation
end Interlocking
