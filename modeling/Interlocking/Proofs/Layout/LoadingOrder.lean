/-
In which order loading registers routes.

The age of a route is written down nowhere: no field of a route tells it, and a store
lists its objects by id. So when routes are loaded into a layout that had none, the
route with the smaller id is the older one, whatever the order was in which the routes
had been registered before they were saved (`InIdOrder.load`). This is so for
whatever is stored, and also if loading breaks off.

What is not stored at all is not touched: the command station and the approach of the
layout stay as they are (`sameSettings_load`).
-/
import Interlocking.Proofs.Layout.RouteRegistry
import Interlocking.Proofs.Store

set_option autoImplicit false

namespace Interlocking

theorem Ident.compare_eq_lt {k : Kind} {i j : Ident k} :
    compare i j = .lt ↔ i.number < j.number := by
  have hnumbers : compare i j = compare i.number j.number := rfl
  rw [hnumbers, Std.compare_eq_lt]

/-- The keys of one kind are listed by ascending number. -/
def Ascending (k : Kind) (keys : List EntityKey) : Prop :=
  keys.Pairwise fun a b => compare (⟨a.number⟩ : Ident k) ⟨b.number⟩ = .lt

theorem Kind.ascending_keysIn (k : Kind) (E : Registry EntityKey Fields) :
    Ascending k (k.keysIn E) := by
  have hkeys : (k.keysIn E).Pairwise fun a b => compare a b = .lt :=
    E.pairwise_keys.sublist List.filter_sublist
  refine hkeys.imp_of_mem fun {a b} ha hb hab => ?_
  have hkind : a.kind = b.kind := by
    rw [of_decide_eq_true (List.mem_filter.1 ha).2, of_decide_eq_true (List.mem_filter.1 hb).2]
  have hrank : a.rank < b.rank := Nat.compare_eq_lt.1 hab
  have hnumber : a.number.toNat < b.number.toNat := by
    simp only [EntityKey.rank, hkind] at hrank
    omega
  exact Ident.compare_eq_lt.2 (UInt32.lt_iff_toNat_lt.2 hnumber)

namespace Layout

variable {L M : Layout} {order : List RouteId}

/-! ## What loading leaves alone -/

theorem addRoute_eq (c : RouteConfig) :
    ∃ segments routes, (L.addRoute c).2 = { L with segments := segments, routes := routes } := by
  unfold addRoute
  split
  · exact ⟨_, _, rfl⟩
  · split
    · exact ⟨_, _, rfl⟩
    · dsimp only
      rw [modifySegments_eq]
      exact ⟨_, _, rfl⟩

/-- The command station and the approach of the layout are the same. -/
structure SameSettings (L M : Layout) : Prop where
  approach : M.defaultApproach = L.defaultApproach
  station : M.station = L.station

theorem sameSettings_addStored (hcalm : L.reaction = none) (key : EntityKey) (f : Fields) :
    L.SameSettings (L.addStored key f).2 := by
  have hread : ∀ {α : Type} (read : Except LayoutError α)
      (add : α → Layout → Except LayoutError Unit × Layout),
      (∀ a, L.SameSettings (add a L).2) → L.SameSettings (L.addRead read add).2 := by
    intro α read add hadd
    cases read with
    | error e => exact ⟨rfl, rfl⟩
    | ok a => exact hadd a
  unfold addStored
  split
  · refine hread _ _ fun c => ?_
    unfold addSensor
    split <;> exact ⟨rfl, rfl⟩
  · refine hread _ _ fun c => ?_
    unfold addAccessory
    split <;> exact ⟨rfl, rfl⟩
  · exact hread _ _ fun _ => ⟨rfl, rfl⟩
  · refine hread _ _ fun c => ?_
    obtain ⟨sensors, segments, notices, hadded⟩ := addSegment_eq hcalm c
    rw [hadded]
    exact ⟨rfl, rfl⟩
  · refine hread _ _ fun x => ?_
    obtain ⟨segments, routes, hadded⟩ := addRoute_eq (L := L) x.config
    unfold addStampedRoute
    generalize L.addRoute x.config = added at hadded
    obtain ⟨_ | _, M⟩ := added
    · subst hadded
      exact ⟨rfl, rfl⟩
    · subst hadded
      exact ⟨rfl, rfl⟩

theorem sameSettings_load {σ : Type} [Store σ] (hL : L.Sound) (s : σ) :
    L.SameSettings (L.load s).2 := by
  refine (load_keeps (P := fun M => M.Sound ∧ L.SameSettings M) ?_ ?_ s ⟨hL, rfl, rfl⟩).2
  · rintro key f M ⟨hsound, hM⟩
    have hadded := sameSettings_addStored hsound.calm key f
    exact ⟨hsound.addStored key f, hadded.approach.trans hM.approach,
      hadded.station.trans hM.station⟩
  · rintro n M ⟨hsound, hM⟩
    exact ⟨⟨hsound.calm, hsound.segments⟩, hM.approach, hM.station⟩

/-! ## The age of routes -/

/-- The routes that are new come after the old ones. -/
theorem byAge_of_keys {new : List RouteId} (hkeys : L.routes.keys = order ++ new) :
    L.byAge order = order ++ new := by
  have hnodup := L.routes.nodup_keys
  rw [hkeys, List.nodup_append] at hnodup
  have hold : order.filter L.routes.contains = order := by
    refine List.filter_eq_self.2 fun r hr => ?_
    rw [Registry.contains, ← Registry.mem_keys_iff, hkeys]
    exact List.mem_append_left _ hr
  have hnew : (L.routes.keys.filter fun r => !order.contains r) = new := by
    rw [hkeys, List.filter_append, List.filter_eq_nil_iff.2, List.filter_eq_self.2, List.nil_append]
    · intro r hr
      have hout : r ∉ order := fun hmem => hnodup.2.2 r hmem r hr rfl
      simpa using hout
    · intro r hr
      simpa using hr
  rw [byAge, hold, hnew]

/-- The routes have been registered by ascending id. -/
def InIdOrder (L : Layout) : Prop := L.AddedInOrder L.routes.keys

/-- A stored object that is no route leaves the routes alone, and a route with an id
that is greater than all others is the last one. -/
theorem keys_addStored (hcalm : L.reaction = none) (key : EntityKey) (f : Fields)
    (hlater : key.kind = .route → ∀ r ∈ L.routes.keys, compare r ⟨key.number⟩ = .lt) :
    ∃ new, (L.addStored key f).2.routes.keys = L.routes.keys ++ new ∧
      ∀ r ∈ new, key.kind = .route ∧ r = ⟨key.number⟩ := by
  have hstores := stores_addStored hcalm key f
  generalize (L.addStored key f).2 = M at hstores
  cases hstores with
  | nothing hsame =>
    refine ⟨[], ?_, by simp⟩
    rw [hsame.routes, List.append_nil]
  | @adds x hkind hread hnew hroutes =>
    have hid := Route.id_of_ofFields hread
    refine ⟨[⟨key.number⟩], ?_, fun r hr => ⟨hkind, List.mem_singleton.1 hr⟩⟩
    rw [hroutes, hid]
    exact Registry.keys_insert_of_lt (hlater hkind) x

theorem InIdOrder.addStored (h : L.InIdOrder) (key : EntityKey) (f : Fields)
    (hlater : key.kind = .route → ∀ r ∈ L.routes.keys, compare r ⟨key.number⟩ = .lt) :
    (L.addStored key f).2.InIdOrder := by
  obtain ⟨new, hkeys, -⟩ := keys_addStored h.linked.1.calm key f hlater
  have hnext := AddedInOrder.addStored h key f
  rw [byAge_of_keys hkeys, ← hkeys] at hnext
  exact hnext

section Stores

variable {σ : Type} [Store σ] {s : σ}

theorem InIdOrder.loadKeys (h : L.InIdOrder) {k : Kind} {keys : List EntityKey}
    (hkeys : Ascending k keys)
    (hlater : k = .route → ∀ key ∈ keys, ∀ r ∈ L.routes.keys, compare r ⟨key.number⟩ = .lt) :
    (L.loadKeys s k keys).2.InIdOrder ∧
      (k ≠ .route → (L.loadKeys s k keys).2.routes.keys = L.routes.keys) := by
  -- What carries the induction: the keys to come are greater than all that were loaded.
  induction keys generalizing L with
  | nil => exact ⟨h, fun _ => rfl⟩
  | cons key keys ih =>
    obtain ⟨hfirst, hrest⟩ := List.pairwise_cons.1 hkeys
    rw [Layout.loadKeys]
    cases Store.load key s with
    | error e => exact ⟨h, fun _ => rfl⟩
    | ok stored =>
      cases stored with
      | none => exact ih h hrest fun hk key' hkey' => hlater hk key' (List.mem_cons_of_mem _ hkey')
      | some f =>
        have hlater' : k = .route → ∀ r ∈ L.routes.keys, compare r ⟨key.number⟩ = .lt :=
          fun hk => hlater hk key List.mem_cons_self
        obtain ⟨new, hnew, hid⟩ := keys_addStored h.linked.1.calm ⟨k, key.number⟩ f hlater'
        have hnext := h.addStored ⟨k, key.number⟩ f hlater'
        have hsame : k ≠ .route →
            (L.addStored ⟨k, key.number⟩ f).2.routes.keys = L.routes.keys := by
          intro hk
          have hnone : new = [] := List.eq_nil_iff_forall_not_mem.2 fun r hr => hk (hid r hr).1
          rw [hnew, hnone, List.append_nil]
        dsimp only
        generalize L.addStored ⟨k, key.number⟩ f = added at hnew hnext hsame
        obtain ⟨_ | _, L'⟩ := added
        · exact ⟨hnext, hsame⟩
        · -- The keys that come later are greater than this one, too.
          have hmore := ih hnext hrest fun hk key' hkey' r hr => by
            dsimp only at hnew
            rw [hnew] at hr
            rcases List.mem_append.1 hr with hr | hr
            · exact hlater hk key' (List.mem_cons_of_mem _ hkey') r hr
            · obtain rfl := (hid r hr).2
              subst hk
              exact hfirst key' hkey'
          exact ⟨hmore.1, fun hk => (hmore.2 hk).trans (hsame hk)⟩

theorem InIdOrder.loadKinds (h : L.InIdOrder)
    (hkeys : ∀ k keys, Store.keys k s = .ok keys → Ascending k keys) (kinds : List Kind)
    (hnodup : kinds.Nodup) (hnone : .route ∈ kinds → L.routes.keys = []) :
    (L.loadKinds s kinds).2.InIdOrder := by
  induction kinds generalizing L with
  | nil => exact h
  | cons k kinds ih =>
    obtain ⟨hfirst, hrest⟩ := List.nodup_cons.1 hnodup
    rw [Layout.loadKinds]
    cases hlisted : Store.keys k s with
    | error e => exact h
    | ok keys =>
      have hlater : k = .route → ∀ key ∈ keys, ∀ r ∈ L.routes.keys,
          compare r ⟨key.number⟩ = .lt := by
        rintro rfl key - r hr
        rw [hnone List.mem_cons_self] at hr
        cases hr
      have hloaded := h.loadKeys (s := s) (hkeys k keys hlisted) hlater
      dsimp only
      generalize L.loadKeys s k keys = loaded at hloaded
      obtain ⟨_ | _, L'⟩ := loaded
      · exact hloaded.1
      · refine ih hloaded.1 hrest fun hmem => ?_
        -- Routes come once, so what came before them were no routes.
        have hk : k ≠ .route := fun heq => hfirst (heq ▸ hmem)
        exact (hloaded.2 hk).trans (hnone (List.mem_cons_of_mem _ hmem))

/-- **The age of loaded routes.** -/
theorem InIdOrder.load (h : L.InIdOrder) (hnone : L.routes.keys = [])
    (hkeys : ∀ k keys, Store.keys k s = .ok keys → Ascending k keys) : (L.load s).2.InIdOrder := by
  have hloaded := h.loadKinds hkeys Enumeration.all (by decide) fun _ => hnone
  rw [Layout.load]
  generalize L.loadKinds s Enumeration.all = loaded at hloaded
  obtain ⟨_ | _, L'⟩ := loaded
  · exact hloaded
  · exact hloaded.count _

end Stores

end Layout
end Interlocking
