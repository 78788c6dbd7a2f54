/-
A store in one file.

The file holds a JSON object with a member for each stored object, its key as
the name and its fields as the value. It is read once, when the store is
opened, and written anew at every change; a batch is one change.

In the file the members stand in the order of their names as texts, so
`track/10` comes before `track/2`. When a file is read, several names may mean
the same object, and then the last of them in that order counts.
-/
import Interlocking.Json.Form
import Interlocking.Store.Memory

set_option autoImplicit false

namespace Interlocking

/-- A store in a file. -/
structure FileStore where
  entities : Registry EntityKey Fields := .empty
  /-- The text in the file; nothing as long as there is no file. -/
  file : Option String := none
  deriving DecidableEq

namespace FileStore

/-! ## The text of a file -/

/-- What a file holds: fields by the names of keys. -/
def form : Json.Form (Registry String Fields) := .registry (.registry .text)

/-- The text of a file with the given objects. -/
def textOf (entities : Registry EntityKey Fields) : String :=
  (form.write (.ofList (entities.entries.map fun e => (e.1.text, e.2)))).tidy

/-! ## Opening -/

/-- Why a file could not be opened. -/
inductive OpenError where
  /-- It does not hold text. -/
  | unreadable
  /-- The text is not a JSON object of objects of texts. -/
  | malformed
  /-- A name is not that of a key. -/
  | invalidKey (name : String)
  deriving DecidableEq, Repr

/-- The message for people, about the file at a path. -/
def OpenError.message (path : String) : OpenError → String
  | unreadable => "reading " ++ path
  | malformed => "parsing " ++ path
  | invalidKey name => "invalid entity key '" ++ name ++ "' in " ++ path

/-- Enters objects one after another under the keys that their names mean. -/
def enter : List (String × Fields) → Registry EntityKey Fields →
    Except OpenError (Registry EntityKey Fields)
  | [], entities => .ok entities
  | (name, f) :: rest, entities =>
    match EntityKey.parse? name with
    | some key => enter rest (entities.insert key f)
    | none => .error (.invalidKey name)

/-- The objects in the text of a file. -/
def entitiesOf (text : String) : Except OpenError (Registry EntityKey Fields) :=
  match form.decode text with
  | .ok r => enter r.entries .empty
  | .error _ => .error .malformed

/-- Opens the store in a file with a given text; without a file it is empty. -/
def openText : Option String → Except OpenError FileStore
  | none => .ok {}
  | some text => (entitiesOf text).map fun entities => { entities := entities, file := some text }

/-- Opens the store in a file with a given content. -/
def openFile : Option ByteArray → Except OpenError FileStore
  | none => openText none
  | some content =>
    match String.fromUTF8? content with
    | some text => openText (some text)
    | none => .error .unreadable

/-- Closes the store and opens it again. -/
def reopen (s : FileStore) : Except OpenError FileStore := openText s.file

/-! ## Operations -/

/-- The store with new objects, and with the file written. -/
def written (entities : Registry EntityKey Fields) : FileStore :=
  { entities := entities, file := some (textOf entities) }

/-- The objects after a batch. -/
def batch (dropped : List EntityKey) (saved : List (EntityKey × Fields))
    (entities : Registry EntityKey Fields) : Registry EntityKey Fields :=
  saved.foldl (fun r e => r.insert e.1 e.2) (dropped.foldl (fun r key => r.erase key) entities)

end FileStore

instance : Store FileStore where
  keys k s := .ok (k.keysIn s.entities)
  load key s := .ok (s.entities.get? key)
  save key f s := (.ok (), .written (s.entities.insert key f))
  delete key s :=
    (.ok (), if s.entities.contains key then .written (s.entities.erase key) else s)
  applyBatch dropped saved s := (.ok (), .written (FileStore.batch dropped saved s.entities))

end Interlocking
