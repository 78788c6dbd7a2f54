/-
Stores in memory: one that always works, and one that does not.

The second one fails as it is told and may claim to hold an object that is not
there. It serves to try out what a refusal leaves behind.
-/
import Interlocking.Store.Basic

set_option autoImplicit false

namespace Interlocking

/-! ## A store that works -/

/-- A store in memory. -/
structure MemoryStore where
  entities : Registry EntityKey Fields := .empty
  deriving DecidableEq

instance : Store MemoryStore where
  keys k s := .ok (k.keysIn s.entities)
  load key s := .ok (s.entities.get? key)
  save key f s := (.ok (), { s with entities := s.entities.insert key f })
  delete key s := (.ok (), { s with entities := s.entities.erase key })

/-! ## A store that fails -/

/-- A store in memory with faults. -/
structure FaultyStore where
  inner : MemoryStore := {}
  /-- The object that cannot be saved. -/
  noSave : Option EntityKey := none
  /-- The object that cannot be deleted. -/
  noDelete : Option EntityKey := none
  /-- The object that cannot be loaded. -/
  noLoad : Option EntityKey := none
  /-- The kind whose keys cannot be listed. -/
  noKeys : Option Kind := none
  /-- An object that is listed last among its kind, though it is not there. -/
  ghost : Option EntityKey := none
  deriving DecidableEq

/-- The refusal of an operation that was made to fail. -/
def StoreError.injected (operation : String) : StoreError :=
  { cause := .fault ("injected " ++ operation ++ " failure") }

instance : Store FaultyStore where
  keys k s :=
    if s.noKeys = some k then .error (.injected "keys")
    else .ok (k.keysIn s.inner.entities ++ s.ghost.toList.filter fun key => decide (key.kind = k))
  load key s :=
    if s.noLoad = some key then .error (.injected "load") else Store.load key s.inner
  save key f s :=
    if s.noSave = some key then (.error (.injected "save"), s)
    else
      match Store.save key f s.inner with
      | (answer, inner) => (answer, { s with inner := inner })
  delete key s :=
    if s.noDelete = some key then (.error (.injected "delete"), s)
    else
      match Store.delete key s.inner with
      | (answer, inner) => (answer, { s with inner := inner })

end Interlocking
