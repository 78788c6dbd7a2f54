/-
The settings of a server that runs a layout.

Settings come from a JSON file in which every section and every field may be
missing, or from a series of changes to the defaults. The texts in them have a
bounded size: a file with a longer text is refused, a change with a longer text
keeps what fits.
-/
import Interlocking.Approach
import Interlocking.Json.Record

set_option autoImplicit false

namespace Interlocking

/-! ## Sections -/

/-- How routes are ordered. -/
structure LayoutSettings where
  /-- The approach where neither the request nor the segment has one. -/
  defaultApproach : Approach := .systemDefault
  /-- A seed for the random order. -/
  seed : Option UInt64 := none
  deriving DecidableEq

/-- The web interface. -/
structure WebSettings where
  /-- The TCP number at which it listens. -/
  tcpNumber : UInt16 := 8080
  /-- Whether pages from anywhere may use the interface. -/
  openToAll : Bool := true
  enabled : Bool := true
  deriving DecidableEq

/-- The connection to a message broker. -/
structure BrokerSettings where
  host : ShortText := .cut "localhost"
  /-- The TCP number of the broker. -/
  tcpNumber : UInt16 := 1883
  clientId : ShortText := .cut "rs-railcontrol"
  /-- What all topics begin with. -/
  topicPrefix : ShortText := .cut "layout"
  /-- The name to log in with; empty for no login. -/
  username : ShortText := .cut ""
  password : ShortText := .cut ""
  /-- Milliseconds between two publications of everything. -/
  heartbeat : UInt32 := 30000
  /-- Seconds after which a silent connection counts as lost. -/
  keepAlive : UInt16 := 30
  enabled : Bool := false
  deriving DecidableEq

/-- The place where the layout is stored. -/
structure StorageSettings where
  /-- The file; empty for none. -/
  path : LongText := .cut "layout.json"
  saveOnExit : Bool := true
  deriving DecidableEq

/-- All settings. -/
structure Settings where
  layout : LayoutSettings := {}
  web : WebSettings := {}
  broker : BrokerSettings := {}
  storage : StorageSettings := {}
  deriving DecidableEq

/-- Whether the layout is kept in a file. -/
def StorageSettings.isPersistent (s : StorageSettings) : Bool := !s.path.text.isEmpty

/-- The address on which the web interface listens: every interface of the
machine, at the TCP number. -/
def WebSettings.address (s : WebSettings) : String := "0.0.0.0:" ++ Decimal.text s.tcpNumber

/-! ## Changes -/

/-- A change to the settings. -/
inductive Settings.Change where
  | defaultApproach (a : Approach)
  | seed (n : UInt64)
  | webNumber (n : UInt16)
  | host (s : String)
  | brokerNumber (n : UInt16)
  | topicPrefix (s : String)
  | credentials (username password : String)
  | heartbeat (n : UInt32)
  | brokerEnabled (b : Bool)
  | path (s : String)
  deriving DecidableEq, Repr

namespace Settings

/-- Makes a change. -/
def change (s : Settings) : Change → Settings
  | .defaultApproach a => { s with layout := { s.layout with defaultApproach := a } }
  | .seed n => { s with layout := { s.layout with seed := some n } }
  | .webNumber n => { s with web := { s.web with tcpNumber := n } }
  | .host t => { s with broker := { s.broker with host := .cut t } }
  | .brokerNumber n => { s with broker := { s.broker with tcpNumber := n } }
  | .topicPrefix t => { s with broker := { s.broker with topicPrefix := .cut t } }
  | .credentials u p => { s with broker := { s.broker with username := .cut u, password := .cut p } }
  | .heartbeat n => { s with broker := { s.broker with heartbeat := n } }
  | .brokerEnabled b => { s with broker := { s.broker with enabled := b } }
  | .path t => { s with storage := { s.storage with path := .cut t } }

/-- The defaults with changes made one after another. -/
def ofChanges (changes : List Change) : Settings :=
  changes.foldl change {}

end Settings

/-! ## JSON -/

/-- The form of the section `layout`. -/
def LayoutSettings.form : Json.Form LayoutSettings :=
  .record LayoutSettings.mk <|
    .field
      { name := "default_approach", get := defaultApproach, form := .vocabulary Approach,
        absent := some ({} : LayoutSettings).defaultApproach } <|
    .field
      { name := "rng_seed", get := seed, form := .option (.word UInt64),
        absent := some ({} : LayoutSettings).seed } <|
    .done

/-- The form of the section `web`. -/
def WebSettings.form : Json.Form WebSettings :=
  let d : WebSettings := {}
  .record WebSettings.mk <|
    .field { name := "port", get := tcpNumber, form := .word UInt16, absent := some d.tcpNumber } <|
    .field { name := "cors_permissive", get := openToAll, form := .flag, absent := some d.openToAll } <|
    .field { name := "enabled", get := enabled, form := .flag, absent := some d.enabled } <|
    .done

/-- The form of the section `mqtt`. -/
def BrokerSettings.form : Json.Form BrokerSettings :=
  let d : BrokerSettings := {}
  .record BrokerSettings.mk <|
    .field { name := "host", get := host, form := .bounded 64, absent := some d.host } <|
    .field { name := "port", get := tcpNumber, form := .word UInt16, absent := some d.tcpNumber } <|
    .field { name := "client_id", get := clientId, form := .bounded 64, absent := some d.clientId } <|
    .field
      { name := "topic_prefix", get := topicPrefix, form := .bounded 64, absent := some d.topicPrefix } <|
    .field { name := "username", get := username, form := .bounded 64, absent := some d.username } <|
    .field { name := "password", get := password, form := .bounded 64, absent := some d.password } <|
    .field { name := "heartbeat_ms", get := heartbeat, form := .word UInt32, absent := some d.heartbeat } <|
    .field
      { name := "keep_alive_secs", get := keepAlive, form := .word UInt16, absent := some d.keepAlive } <|
    .field { name := "enabled", get := enabled, form := .flag, absent := some d.enabled } <|
    .done

/-- The form of the section `storage`. -/
def StorageSettings.form : Json.Form StorageSettings :=
  let d : StorageSettings := {}
  .record StorageSettings.mk <|
    .field { name := "path", get := path, form := .bounded 128, absent := some d.path } <|
    .field { name := "save_on_exit", get := saveOnExit, form := .flag, absent := some d.saveOnExit } <|
    .done

namespace Settings

/-- The form of the settings. -/
def form : Json.Form Settings :=
  .record Settings.mk <|
    .field { name := "layout", get := layout, form := LayoutSettings.form, absent := some {} } <|
    .field { name := "web", get := web, form := WebSettings.form, absent := some {} } <|
    .field { name := "mqtt", get := broker, form := BrokerSettings.form, absent := some {} } <|
    .field { name := "storage", get := storage, form := StorageSettings.form, absent := some {} } <|
    .done

/-! ## Files -/

/-- Why settings could not be read. -/
inductive Error where
  /-- There is no file, or it does not hold text. -/
  | unreadable
  /-- The text is not that of settings. -/
  | invalid
  deriving DecidableEq, Repr

/-- The message for people, about the file at a path. -/
def Error.message (path : String) : Error → String
  | unreadable => "reading config " ++ path
  | invalid => "invalid configuration"

/-- Reads settings from a text. -/
def ofText (text : String) : Except Error Settings :=
  match form.decode text with
  | .ok s => .ok s
  | .error _ => .error .invalid

/-- Reads settings from the content of a file, if there is one. -/
def ofFile (content : Option ByteArray) : Except Error Settings :=
  match content.bind String.fromUTF8? with
  | some text => ofText text
  | none => .error .unreadable

end Settings
end Interlocking
