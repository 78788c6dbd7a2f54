/-
Saving a layout and loading it again.

Saving writes every object and drops every stored object that the layout does
not have, in one batch. Loading adds the stored objects to a layout, kind by
kind in the order in which kinds depend on each other, and stops at the first
object that cannot be added; what has been added by then stays.

Routes are stored with their stamps. A layout that has loaded them counts its
uses on from the greatest stamp, so that a route which is used next is the
most recently used one.
-/
import Interlocking.Layout.Registration
import Interlocking.Store.Basic

set_option autoImplicit false

namespace Interlocking.Layout

/-! ## Saving -/

/-- The entries of a layout: all its objects with their keys, kind by kind. -/
def entries (L : Layout) : List (EntityKey × Fields) :=
  L.sensors.values.map (fun s => (s.config.id.key, s.config.toFields)) ++
  L.accessories.values.map (fun a => (a.config.id.key, a.config.toFields)) ++
  L.locos.values.map (fun x => (x.id.key, x.toFields)) ++
  L.segments.values.map (fun g => (g.id.key, g.config.toFields)) ++
  L.routes.values.map (fun r => (r.config.id.key, r.toFields))

variable {σ : Type} [Store σ]

/-- The keys in a store of all kinds, kind by kind. -/
def storedKeys : List Kind → σ → Except StoreError (List EntityKey)
  | [], _ => .ok []
  | k :: ks, s => do
    let keys ← Store.keys k s
    let rest ← storedKeys ks s
    return keys ++ rest

/-- Saves the layout, and nothing but the layout. -/
def save (L : Layout) (s : σ) : Except StoreError Unit × σ :=
  let entries := L.entries
  match storedKeys Enumeration.all s with
  | .error e => (.error e, s)
  | .ok keys =>
    let stale := keys.filter fun key => key ∉ entries.map Prod.fst
    match Store.applyBatch stale entries s with
    | (.ok _, s') => (.ok (), s')
    | (.error e, s') => (.error (e.within .savingLayout), s')

/-! ## Loading -/

/-- Adds a route with its stamp. -/
def addStampedRoute (r : Route) (L : Layout) : Except LayoutError Unit × Layout :=
  match L.addRoute r.config with
  | (.ok _, L') =>
    (.ok (), { L' with
      routes := L'.routes.modify r.config.id fun x => { x with lastUsed := r.lastUsed } })
  | (.error e, L') => (.error e, L')

/-- Adds what was read, unless it could not be read. -/
def addRead {α : Type} (read : Except LayoutError α)
    (add : α → Layout → Except LayoutError Unit × Layout) (L : Layout) :
    Except LayoutError Unit × Layout :=
  match read with
  | .ok a => add a L
  | .error e => (.error e, L)

/-- Adds a stored object. -/
def addStored (key : EntityKey) (f : Fields) (L : Layout) : Except LayoutError Unit × Layout :=
  match key.kind with
  | .sensor => L.addRead (SensorConfig.ofFields ⟨key.number⟩ f) addSensor
  | .accessory => L.addRead (AccessoryConfig.ofFields ⟨key.number⟩ f) addAccessory
  | .loco => L.addRead (Loco.ofFields ⟨key.number⟩ f) fun x L => (.ok (), L.addLoco x)
  | .segment => L.addRead (SegmentConfig.ofFields ⟨key.number⟩ f) addSegment
  | .route => L.addRead (Route.ofFields ⟨key.number⟩ f) addStampedRoute

/-- Adds the stored objects with the given keys, each as an object of the kind
that the keys were listed under. A key without an object is passed over. -/
def loadKeys (s : σ) (k : Kind) : List EntityKey → Layout → Except StoreError Unit × Layout
  | [], L => (.ok (), L)
  | key :: keys, L =>
    match Store.load key s with
    | .error e => (.error e, L)
    | .ok none => loadKeys s k keys L
    | .ok (some f) =>
      match L.addStored ⟨k, key.number⟩ f with
      | (.ok _, L') => loadKeys s k keys L'
      | (.error e, L') => (.error { steps := [.loading key], cause := .layout e }, L')

/-- Adds the stored objects of the given kinds. -/
def loadKinds (s : σ) : List Kind → Layout → Except StoreError Unit × Layout
  | [], L => (.ok (), L)
  | k :: ks, L =>
    match Store.keys k s with
    | .error e => (.error e, L)
    | .ok keys =>
      match loadKeys s k keys L with
      | (.ok _, L') => loadKinds s ks L'
      | (.error e, L') => (.error e, L')

/-- The stamp of a stored object; zero if it is no route that can be read. -/
def storedStamp (s : σ) (key : EntityKey) : UInt64 :=
  match Store.load key s with
  | .ok (some f) =>
    match Route.ofFields ⟨key.number⟩ f with
    | .ok r => r.lastUsed
    | .error _ => 0
  | _ => 0

/-- The greatest stamp of the stored routes; zero if there is none. -/
def highestStamp (s : σ) : UInt64 :=
  match Store.keys .route s with
  | .ok keys => (keys.map (storedStamp s)).foldl max 0
  | .error _ => 0

/-- Adds everything that is stored, and counts uses on from the greatest
stamp. -/
def load (s : σ) (L : Layout) : Except StoreError Unit × Layout :=
  match loadKinds s Enumeration.all L with
  | (.ok _, L') => (.ok (), { L' with useCounter := max L'.useCounter (highestStamp s) })
  | (.error e, L') => (.error e, L')

end Interlocking.Layout
