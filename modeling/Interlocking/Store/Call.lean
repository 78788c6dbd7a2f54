/-
The operations on a store.

Whoever uses a store does one of the calls below, and also closes the store and opens
it again. To do so makes no difference to a store in memory; a store in a file is read
anew from its file, and if the file cannot be read, then the old store is still there.
-/
import Interlocking.Store.File

set_option autoImplicit false

namespace Interlocking

/-- A store that can be closed and opened again. -/
class Store.Reopens (σ : Type) where
  reopen : σ → Except FileStore.OpenError σ

instance : Store.Reopens MemoryStore where
  reopen s := .ok s

instance : Store.Reopens FileStore where
  reopen := FileStore.reopen

namespace Store

/-- An operation on a store. -/
inductive Call where
  | save (key : EntityKey) (f : Fields)
  | delete (key : EntityKey)
  | applyBatch (dropped : List EntityKey) (saved : List (EntityKey × Fields))
  | load (key : EntityKey)
  | keys (k : Kind)
  | reopen
  deriving DecidableEq

/-- The answer to an operation. -/
inductive Answer where
  /-- The store was changed or opened. -/
  | done
  /-- The fields of an object; nothing if it is not stored. -/
  | object (f : Option Fields)
  /-- The keys of the objects of a kind. -/
  | keys (keys : List EntityKey)
  /-- The store refused. -/
  | refused (e : StoreError)
  /-- The store could not be opened again. -/
  | unopened (e : FileStore.OpenError)
  deriving DecidableEq

/-- The answer of an operation that may refuse. -/
def Answer.of {α : Type} (answer : α → Answer) : Except StoreError α → Answer
  | .ok a => answer a
  | .error e => refused e

section Calls

variable {σ : Type} [Store σ] [Reopens σ]

/-- The answer to a change, and the store after it. -/
def changed (x : Except StoreError Unit × σ) : Answer × σ := (.of (fun _ => .done) x.1, x.2)

/-- The answer to a call and the store after it. -/
def call (s : σ) : Call → Answer × σ
  | .save key f => changed (Store.save key f s)
  | .delete key => changed (Store.delete key s)
  | .applyBatch dropped saved => changed (Store.applyBatch dropped saved s)
  | .load key => (.of .object (Store.load key s), s)
  | .keys k => (.of .keys (Store.keys k s), s)
  | .reopen =>
    match Reopens.reopen s with
    | .ok s' => (.done, s')
    | .error e => (.unopened e, s)

/-- The answers to a run of calls and the store after it. -/
def run (s : σ) : List Call → List Answer × σ
  | [] => ([], s)
  | c :: calls =>
    let (answer, s') := call s c
    let (answers, s'') := run s' calls
    (answer :: answers, s'')

end Calls
end Store
end Interlocking
