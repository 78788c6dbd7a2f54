/-
JSON texts.

The tokens of a text are put together with an explicit stack of the containers
that are open, so a value that is nested a hundred thousand levels deep is no
different from a flat one. At the first token that does not fit, the open
containers are left as they are, and the draft so far is all that is read.

A text is one value with nothing but blanks around it. Some readers do not
care what follows the value, so whether something does is a separate answer.
-/
import Interlocking.Json.Token

set_option autoImplicit false

namespace Interlocking.Json

/-! ## Open containers -/

/-- A container that is open, with what it holds already, last first. -/
inductive Frame where
  | items (done : List Draft)
  /-- An object; `key` is the key whose value is due. -/
  | members (done : List (Option String × Draft)) (key : Option String)
  deriving Inhabited

namespace Frame

/-- The container with one more value. -/
def add (v : Draft) : Frame → Frame
  | items done => items (v :: done)
  | members done key => members ((key, v) :: done) none

/-- The container as a value. -/
def draft (closed : Bool) : Frame → Draft
  | items done => .array done.reverse closed
  | members done _ => .object done.reverse closed

end Frame

/-! ## One token after another -/

/-- What may come next. -/
inductive Expect where
  | value
  /-- A value, or the end of an empty array. -/
  | firstItem
  /-- A key, or the end of an empty object. -/
  | firstKey
  | key
  | colon
  /-- A comma or the end of the container. -/
  | separator
  deriving DecidableEq, Repr

/-- How far a text has been read. -/
inductive Builder where
  /-- Inside a value, with the innermost open container first. -/
  | inside (frames : List Frame) (expect : Expect)
  /-- Behind the value; `alone` as long as nothing follows it. -/
  | behind (v : Draft) (alone : Bool)

namespace Builder

/-- Adds a finished value to the innermost open container. -/
def add (v : Draft) : List Frame → Builder
  | [] => behind v true
  | f :: rest => inside (f.add v :: rest) .separator

/-- Closes the innermost open container. -/
def close : List Frame → Builder
  | [] => behind .broken false
  | f :: rest => add (f.draft true) rest

/-- Leaves the open containers as they are around an innermost value. -/
def abandon (v : Draft) (frames : List Frame) : Draft :=
  frames.foldl (fun v f => (f.add v).draft false) v

/-- Ends at a fault. -/
def fail : List Frame → Expect → Builder
  | f :: rest, .firstItem | f :: rest, .firstKey | f :: rest, .key | f :: rest, .separator =>
    behind (abandon (f.draft false) rest) false
  | frames, _ => behind (abandon .broken frames) false

/-- The beginning of a value. -/
def startValue (frames : List Frame) (expect : Expect) : Token → Builder
  | .null => add .null frames
  | .bool b => add (.bool b) frames
  | .number n => add (.number n) frames
  | .string s => add (.string s) frames
  | .unpaired => add .unpaired frames
  | .beginArray => inside (.items [] :: frames) .firstItem
  | .beginObject => inside (.members [] none :: frames) .firstKey
  | .endArray | .endObject | .colon | .comma | .junk => fail frames expect

/-- A key of the innermost open object. -/
def takeKey (key : Option String) : List Frame → Expect → Builder
  | .members done _ :: rest, _ => inside (.members done key :: rest) .colon
  | frames, expect => fail frames expect

/-- Takes a token. -/
def step : Builder → Token → Builder
  | behind v _, _ => behind v false
  | inside frames .value, t => startValue frames .value t
  | inside frames .firstItem, .endArray => close frames
  | inside frames .firstItem, t => startValue frames .firstItem t
  | inside frames .firstKey, .endObject => close frames
  | inside frames .firstKey, .string s => takeKey (some s) frames .firstKey
  | inside frames .firstKey, .unpaired => takeKey none frames .firstKey
  | inside frames .key, .string s => takeKey (some s) frames .key
  | inside frames .key, .unpaired => takeKey none frames .key
  | inside frames .colon, .colon => inside frames .value
  | inside (.items done :: rest) .separator, .comma => inside (.items done :: rest) .value
  | inside (.items done :: rest) .separator, .endArray => close (.items done :: rest)
  | inside (.members done key :: rest) .separator, .comma => inside (.members done key :: rest) .key
  | inside (.members done key :: rest) .separator, .endObject => close (.members done key :: rest)
  | inside frames expect, _ => fail frames expect

end Builder

/-! ## Texts -/

/-- What a text holds. -/
structure Document where
  value : Draft
  /-- Nothing but blanks follows the value. -/
  alone : Bool

/-- Ends a text. -/
def Builder.finish : Builder → Document
  | behind v alone => ⟨v, alone⟩
  | inside frames expect =>
    match fail frames expect with
    | behind v alone => ⟨v, alone⟩
    | inside .. => ⟨.broken, false⟩

/-- Reads a text. -/
def Document.ofText (s : String) : Document :=
  ((tokens s.toList).foldl Builder.step (.inside [] .value)).finish

end Interlocking.Json
