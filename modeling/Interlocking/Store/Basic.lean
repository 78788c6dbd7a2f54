/-
Stores: where objects are kept between two runs of the program.

A store holds the fields of objects under their keys. It may refuse any of its
operations, and what a refusal leaves behind is up to the store. The changes
that belong together are handed to a store as a batch, so that a store which
writes everything at each change can write once; a store that has nothing
better makes the changes of a batch one by one and stops at the first refusal.

A refusal is passed on with the steps that led to it, outermost first.
-/
import Interlocking.Fields.Codec

set_option autoImplicit false

namespace Interlocking

/-! ## Errors -/

/-- What a store or a layout was doing when something was refused. -/
inductive StoreStep where
  | deleting (key : EntityKey)
  | saving (key : EntityKey)
  | loading (key : EntityKey)
  | savingLayout
  deriving DecidableEq, Repr

/-- The words for a step. -/
def StoreStep.text : StoreStep → String
  | deleting key => "deleting " ++ key.text
  | saving key => "saving " ++ key.text
  | loading key => "loading " ++ key.text
  | savingLayout => "saving layout"

/-- The reason of a refusal. -/
inductive StoreCause where
  /-- The layout does not take an object that was stored. -/
  | layout (e : LayoutError)
  /-- The store does not work. -/
  | fault (reason : String)
  deriving DecidableEq, Repr

/-- The words for a reason. -/
def StoreCause.text : StoreCause → String
  | layout e => e.message
  | fault reason => reason

/-- A refusal with the steps that led to it, outermost first. -/
structure StoreError where
  steps : List StoreStep := []
  cause : StoreCause
  deriving DecidableEq, Repr

namespace StoreError

/-- The same refusal as part of an outer step. -/
def within (step : StoreStep) (e : StoreError) : StoreError :=
  { e with steps := step :: e.steps }

/-- The message for people. -/
def message (e : StoreError) : String :=
  ": ".intercalate (e.steps.map StoreStep.text ++ [e.cause.text])

end StoreError

/-! ## Stores -/

/-- Makes a change for each element of a list and stops at the first refusal,
which becomes part of the element's step. -/
def Store.each {σ α : Type} (change : α → σ → Except StoreError Unit × σ) (step : α → StoreStep) :
    List α → σ → Except StoreError Unit × σ
  | [], s => (.ok (), s)
  | a :: as, s =>
    match change a s with
    | (.ok _, s') => each change step as s'
    | (.error e, s') => (.error (e.within (step a)), s')

/-- A store whose state is a `σ`. -/
class Store (σ : Type) where
  /-- The keys of the objects of a kind, ascending. -/
  keys : Kind → σ → Except StoreError (List EntityKey)
  /-- The fields of an object; nothing if it is not stored. -/
  load : EntityKey → σ → Except StoreError (Option Fields)
  /-- Stores an object, in place of the one with its key. -/
  save : EntityKey → Fields → σ → Except StoreError Unit × σ
  /-- Drops an object. Nothing happens if it is not stored. -/
  delete : EntityKey → σ → Except StoreError Unit × σ
  /-- Drops some objects, then stores some. -/
  applyBatch : List EntityKey → List (EntityKey × Fields) → σ → Except StoreError Unit × σ :=
    fun dropped saved s =>
      match Store.each delete .deleting dropped s with
      | (.ok _, s') =>
        Store.each (fun e : EntityKey × Fields => save e.1 e.2) (fun e => .saving e.1) saved s'
      | (.error e, s') => (.error e, s')

/-- The keys of a kind among the entries of a store that holds a registry. -/
def Kind.keysIn (k : Kind) (r : Registry EntityKey Fields) : List EntityKey :=
  r.keys.filter fun key => decide (key.kind = k)

end Interlocking
