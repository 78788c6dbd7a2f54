/-
The JSON forms of what observers are told.
-/
import Interlocking.Wire.Objects

set_option autoImplicit false

namespace Interlocking

instance : Enumeration LockStage where
  all := [.free, .reserved, .locked]
  name
    | .free => "free"
    | .reserved => "reserved"
    | .locked => "locked"
  mem_all a := by cases a <;> decide
  name_inj a b := by cases a <;> cases b <;> decide

namespace Lock

/-- The lock of a stage and a holder; only a free lock has no holder. -/
def ofParts? : LockStage × Option LocoId → Option Lock
  | (.free, none) => some .free
  | (.reserved, some l) => some (.reserved l)
  | (.locked, some l) => some (.locked l)
  | (.free, some _) | (.reserved, none) | (.locked, none) => none

/-- The form of a lock: its stage, and the holder if there is one. In an array
the stage has to be a name. -/
def form : Json.Form Lock :=
  Json.Form.refine
    (.record Prod.mk <|
      .field
        { name := "state", get := Prod.fst, form := .vocabulary LockStage, item := .named LockStage } <|
      .field
        { name := "loco", get := Prod.snd, form := .option (Ident.form .loco), absent := some none,
          short := none, hidden := Option.isNone } <|
      .done)
    ofParts? fun k => (k.stage, k.holder?)

end Lock

/-- The form of a snapshot. The loco of a release that was put off is written
only if there is one. -/
def Snapshot.form : Json.Form Snapshot :=
  .record Snapshot.mk <|
    .field { name := "id", get := id, form := Ident.form .segment } <|
    .field { name := "name", get := name, form := .text } <|
    .field { name := "lock", get := lock, form := Lock.form } <|
    .field { name := "occupancy", get := occupancy, form := .vocabulary Occupancy } <|
    .field { name := "occupancy_delayed", get := occupancyDelayed, form := .vocabulary Occupancy } <|
    .field { name := "blocked", get := blocked, form := .flag } <|
    .field
      { name := "loco_delayed", get := pendingRelease, form := .option (Ident.form .loco),
        absent := some none, short := none, hidden := Option.isNone } <|
    .field { name := "release_when_free", get := releaseWhenFree, form := .flag } <|
    .field { name := "orientation", get := orientation, form := .vocabulary Orientation } <|
    .done

end Interlocking
