/-
Saving a layout.

What a store holds after a layout was saved is told by the layout alone (`image`): one
entry for each object, under the key of the object. The entries of the five kinds are
written one kind after another; since every object is registered under its own id,
an entry can be looked up by its key like the object itself (`stored`).
-/
import Interlocking.Layout.Archive
import Interlocking.Proofs.Layout.Naming
import Interlocking.Proofs.Store
import Mathlib.Data.List.Nodup

set_option autoImplicit false

namespace Interlocking

theorem Ident.key_inj {k : Kind} {i j : Ident k} : i.key = j.key ↔ i = j := by
  refine ⟨fun h => ?_, congrArg Ident.key⟩
  cases i
  cases j
  cases h
  rfl

/-- A key is that of an id of its kind. -/
theorem EntityKey.exists_ident {k : Kind} (key : EntityKey) (h : key.kind = k) :
    ∃ i : Ident k, key = i.key := by
  subst h
  exact ⟨⟨key.number⟩, rfl⟩

namespace Layout

variable {L : Layout} {order : List RouteId} {key : EntityKey} {f : Fields}

/-! ## What is stored under a key -/

/-- The stored form of the object with a key. -/
def stored (L : Layout) (key : EntityKey) : Option Fields :=
  match key.kind with
  | .sensor => (L.sensors.get? ⟨key.number⟩).map fun x => x.config.toFields
  | .accessory => (L.accessories.get? ⟨key.number⟩).map fun a => a.config.toFields
  | .loco => (L.locos.get? ⟨key.number⟩).map Loco.toFields
  | .segment => (L.segments.get? ⟨key.number⟩).map fun g => g.config.toFields
  | .route => (L.routes.get? ⟨key.number⟩).map Route.toFields

/-- What a store holds after the layout was saved. -/
def image (L : Layout) : Registry EntityKey Fields := .ofList L.entries

section Kinds

variable {k : Kind} {α : Type} {r : Registry (Ident k) α} {idOf : α → Ident k} {write : α → Fields}

/-- An entry of one kind is looked up by its number. -/
theorem mem_map_values_iff (h : ∀ i a, r.get? i = some a → idOf a = i) :
    (key, f) ∈ r.values.map (fun a => ((idOf a).key, write a)) ↔
      key.kind = k ∧ (r.get? ⟨key.number⟩).map write = some f := by
  rw [List.mem_map, Option.map_eq_some_iff]
  constructor
  · rintro ⟨a, ha, heq⟩
    obtain ⟨rfl, rfl⟩ := Prod.mk.inj heq
    obtain ⟨i, hi⟩ := (r.mem_values_iff a).1 ha
    rw [h i a hi]
    exact ⟨rfl, a, hi, rfl⟩
  · rintro ⟨rfl, a, ha, rfl⟩
    exact ⟨a, (r.mem_values_iff a).2 ⟨_, ha⟩, by rw [h _ a ha]; rfl⟩

/-- The keys of one kind are those of the registered ids. -/
theorem map_fst_map_values (h : ∀ i a, r.get? i = some a → idOf a = i) :
    (r.values.map fun a => ((idOf a).key, write a)).map Prod.fst = r.keys.map Ident.key := by
  rw [List.map_map, Registry.values, Registry.keys, List.map_map, List.map_map]
  refine List.map_congr_left ?_
  rintro ⟨i, a⟩ hmem
  exact congrArg Ident.key (h i a ((r.get?_eq_some_iff i a).2 hmem))

theorem nodup_map_key (r : Registry (Ident k) α) : (r.keys.map Ident.key).Nodup :=
  List.pairwise_map.2 (r.nodup_keys.imp fun hne heq => hne (Ident.key_inj.1 heq))

/-- Keys of one more kind are different from those of other kinds. -/
theorem nodup_append_map_key {keys : List EntityKey} (hkeys : keys.Nodup)
    (hother : ∀ key ∈ keys, key.kind ≠ k) (r : Registry (Ident k) α) :
    (keys ++ r.keys.map Ident.key).Nodup := by
  refine List.nodup_append.2 ⟨hkeys, nodup_map_key r, ?_⟩
  rintro key hkey key' hkey' rfl
  obtain ⟨i, -, rfl⟩ := List.mem_map.1 hkey'
  exact hother _ hkey rfl

end Kinds

section Entries

variable (h : L.AddedInOrder order)
include h

theorem AddedInOrder.id_segment : ∀ t g, L.segments.get? t = some g → g.id = t := fun t g hg =>
  (h.linked.2.segments t g hg).id

theorem AddedInOrder.id_route : ∀ r x, L.routes.get? r = some x → x.config.id = r := fun r x hx =>
  h.named.routes r x.config (by rw [config?, hx, Option.map_some])

theorem AddedInOrder.mem_entries : (key, f) ∈ L.entries ↔ L.stored key = some f := by
  have hnamed := h.named
  rw [entries, List.mem_append, List.mem_append, List.mem_append, List.mem_append,
    mem_map_values_iff hnamed.sensors, mem_map_values_iff hnamed.accessories,
    mem_map_values_iff hnamed.locos, mem_map_values_iff h.id_segment,
    mem_map_values_iff h.id_route,
    stored]
  cases key.kind <;> simp

/-- No two objects have the same key. -/
theorem AddedInOrder.nodup_entries : (L.entries.map Prod.fst).Nodup := by
  have hnamed := h.named
  simp only [entries, List.map_append, map_fst_map_values hnamed.sensors,
    map_fst_map_values hnamed.accessories, map_fst_map_values hnamed.locos,
    map_fst_map_values h.id_segment, map_fst_map_values h.id_route]
  refine nodup_append_map_key (nodup_append_map_key (nodup_append_map_key
    (nodup_append_map_key (nodup_map_key _) ?_ _) ?_ _) ?_ _) ?_ _
  all_goals simp [Ident.key, or_imp, forall_and]

/-- **What is looked up in the image** is the stored form of the object. -/
theorem AddedInOrder.get?_image : L.image.get? key = L.stored key := by
  refine Option.ext fun f => ?_
  rw [image, Registry.get?_ofList_eq_some_iff h.nodup_entries, h.mem_entries]

/-- The image has exactly one entry for each object. -/
theorem AddedInOrder.entries_image : L.image.entries.Perm L.entries := by
  have hnodup : L.image.entries.Nodup := List.Nodup.of_map Prod.fst L.image.nodup_keys
  refine (List.perm_ext_iff_of_nodup hnodup (List.Nodup.of_map Prod.fst h.nodup_entries)).2 ?_
  rintro ⟨key, f⟩
  rw [← L.image.get?_eq_some_iff, h.get?_image, h.mem_entries]

end Entries

/-! ## The batch -/

section Stores

variable {σ : Type} [Store σ] {entities : σ → Registry EntityKey Fields}
  {make : Registry EntityKey Fields → σ}

theorem storedKeys_eq (hs : Store.Reliable σ entities make) (s : σ) (kinds : List Kind) :
    storedKeys kinds s = .ok (kinds.flatMap fun k => k.keysIn (entities s)) := by
  induction kinds with
  | nil => rfl
  | cons k kinds ih =>
    rw [storedKeys, hs.keys, ih]
    rfl

theorem mem_storedKeys (E : Registry EntityKey Fields) :
    key ∈ (Enumeration.all : List Kind).flatMap (fun k => k.keysIn E) ↔ (E.get? key).isSome := by
  rw [← E.mem_keys_iff, List.mem_flatMap]
  constructor
  · rintro ⟨k, -, hkey⟩
    exact (List.mem_filter.1 hkey).1
  · intro hkey
    exact ⟨key.kind, Enumeration.mem_all _, List.mem_filter.2 ⟨hkey, by simp⟩⟩

/-- **Saving** never fails, and what the store held before makes no difference. -/
theorem AddedInOrder.save_eq (h : L.AddedInOrder order) (hs : Store.Reliable σ entities make)
    (s : σ) : L.save s = (.ok (), make L.image) := by
  have hbatch : FileStore.batch (((Enumeration.all : List Kind).flatMap fun k =>
      k.keysIn (entities s)).filter fun key => decide (key ∉ L.entries.map Prod.fst)) L.entries
        (entities s) = L.image := by
    refine Registry.ext_get? fun key => ?_
    rw [h.get?_image, FileStore.batch]
    cases hstored : L.stored key with
    | some f =>
      refine Registry.get?_foldl_insert_of_mem (h.mem_entries.2 hstored) fun f' hf' => ?_
      exact Option.some.inj ((h.mem_entries.1 hf').symm.trans hstored)
    | none =>
      -- What is no object of the layout is dropped, if it is there.
      have hno : ∀ f, (key, f) ∉ L.entries := by
        intro f hf
        cases hstored.symm.trans (h.mem_entries.1 hf)
      rw [Registry.get?_foldl_insert_of_notMem hno, Registry.get?_foldl_erase]
      split
      next => rfl
      next hstays =>
        refine Option.not_isSome_iff_eq_none.1 fun hthere => hstays ?_
        refine List.mem_filter.2 ⟨(mem_storedKeys _).2 hthere, decide_eq_true ?_⟩
        intro hmem
        obtain ⟨⟨key, f⟩, he, rfl⟩ := List.mem_map.1 hmem
        exact hno f he
  rw [save, storedKeys_eq hs]
  dsimp only
  rw [hs.applyBatch, hbatch]

end Stores

end Layout
end Interlocking
