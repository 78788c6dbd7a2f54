/-
Stores of different makes side by side.
-/
import Interlocking.Store.File

set_option autoImplicit false

namespace Interlocking

/-- A store of one of the makes. -/
inductive AnyStore where
  | memory (s : MemoryStore)
  | file (s : FileStore)
  | faulty (s : FaultyStore)
  deriving DecidableEq

namespace AnyStore

instance : Inhabited AnyStore := ⟨.memory {}⟩

/-- The objects that are really in the store. -/
def entities : AnyStore → Registry EntityKey Fields
  | memory s => s.entities
  | file s => s.entities
  | faulty s => s.inner.entities

/-- Rebuilds a store from the answer of an operation. -/
def answer {α σ : Type} (make : σ → AnyStore) (x : α × σ) : α × AnyStore := (x.1, make x.2)

instance : Store AnyStore where
  keys k
    | memory s => Store.keys k s
    | file s => Store.keys k s
    | faulty s => Store.keys k s
  load key
    | memory s => Store.load key s
    | file s => Store.load key s
    | faulty s => Store.load key s
  save key f
    | memory s => answer memory (Store.save key f s)
    | file s => answer file (Store.save key f s)
    | faulty s => answer faulty (Store.save key f s)
  delete key
    | memory s => answer memory (Store.delete key s)
    | file s => answer file (Store.delete key s)
    | faulty s => answer faulty (Store.delete key s)
  applyBatch dropped saved
    | memory s => answer memory (Store.applyBatch dropped saved s)
    | file s => answer file (Store.applyBatch dropped saved s)
    | faulty s => answer faulty (Store.applyBatch dropped saved s)

/-- Puts an object into the store past its faults. -/
def put (key : EntityKey) (f : Fields) : AnyStore → AnyStore
  | memory s => memory (Store.save key f s).2
  | file s => file (Store.save key f s).2
  | faulty s => faulty { s with inner := (Store.save key f s.inner).2 }

/-- Takes an object out of the store past its faults. -/
def remove (key : EntityKey) : AnyStore → AnyStore
  | memory s => memory (Store.delete key s).2
  | file s => file (Store.delete key s).2
  | faulty s => faulty { s with inner := (Store.delete key s.inner).2 }

end AnyStore
end Interlocking
