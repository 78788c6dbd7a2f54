/-
Stores that keep what they are given.

A store in memory and a store in a file are the same to whoever uses them: both hold
the objects that they were given (`Reliable`). The file adds one thing, that the
objects are still there when it is opened again. A file names each object by the
text of its key, and a key is read back from its text.
-/
import Interlocking.Proofs.Json.Document
import Interlocking.Store.File

set_option autoImplicit false

namespace Interlocking

/-! ## Names of keys -/

theorem Text.splitOnce_append {sep : Char} {before : List Char} (h : sep ∉ before)
    (after : List Char) : Text.splitOnce sep (before ++ sep :: after) = some (before, after) := by
  induction before with
  | nil => simp [Text.splitOnce]
  | cons c cs ih =>
    have hc : c ≠ sep := fun heq => h (heq ▸ List.mem_cons_self)
    rw [List.cons_append, Text.splitOnce, if_neg hc, ih fun hcs => h (List.mem_cons_of_mem _ hcs)]
    rfl

/-- A key is read back from its text. -/
theorem EntityKey.parse?_text (key : EntityKey) : EntityKey.parse? key.text = some key := by
  obtain ⟨kind, number⟩ := key
  have hslash : '/' ∉ kind.name.toList := by cases kind <;> decide
  have hkind : Enumeration.ofName? (String.ofList kind.name.toList) = some kind := by
    rw [String.ofList_toList]
    exact Enumeration.ofName?_name kind
  have hnumber : Decimal.word? (String.ofList (Decimal.chars number.toNat)) = some number :=
    Decimal.word?_text number
  rw [parse?, text, String.toList_ofList, Text.splitOnce_append hslash]
  simp only [Option.bind_eq_bind, Option.bind_some, hkind, hnumber]
  rfl

theorem EntityKey.text_inj {k k' : EntityKey} (h : k.text = k'.text) : k = k' := by
  have hread := k.parse?_text
  rw [h, k'.parse?_text] at hread
  exact (Option.some.inj hread).symm

/-! ## The file -/

namespace FileStore

theorem enter_eq {named : List (String × Fields)} {E : Registry EntityKey Fields}
    (h : ∀ e ∈ named, (EntityKey.parse? e.1).isSome) :
    enter named E = .ok ((named.filterMap fun e => (EntityKey.parse? e.1).map (·, e.2)).foldl
      (fun r e => r.insert e.1 e.2) E) := by
  induction named generalizing E with
  | nil => rfl
  | cons e named ih =>
    obtain ⟨key, hkey⟩ := Option.isSome_iff_exists.1 (h e List.mem_cons_self)
    rw [enter, hkey]
    dsimp only
    rw [ih fun e he => h e (List.mem_cons_of_mem _ he), List.filterMap_cons, hkey]
    rfl

/-- **The objects are read back from the file.** The members of the file stand in
another order than the objects, which makes no difference to look-ups. -/
theorem entitiesOf_textOf (E : Registry EntityKey Fields) : entitiesOf (textOf E) = .ok E := by
  have hnodup : ((E.entries.map fun e => (e.1.text, e.2)).map Prod.fst).Nodup := by
    rw [List.map_map]
    exact List.pairwise_map.2 ((List.pairwise_map.1 E.nodup_keys).imp
      fun hne heq => hne (EntityKey.text_inj heq))
  have hmember : ∀ {name : String} {f : Fields},
      (Registry.ofList (E.entries.map fun e => (e.1.text, e.2))).get? name = some f ↔
        ∃ key, key.text = name ∧ E.get? key = some f := by
    intro name f
    rw [Registry.get?_ofList_eq_some_iff hnodup, List.mem_map]
    constructor
    · rintro ⟨⟨key, f⟩, he, heq⟩
      obtain ⟨rfl, rfl⟩ := Prod.mk.inj heq
      exact ⟨key, rfl, (E.get?_eq_some_iff key f).2 he⟩
    · rintro ⟨key, rfl, he⟩
      exact ⟨(key, f), (E.get?_eq_some_iff key f).1 he, rfl⟩
  have hlawful : form.Lawful := Json.Form.lawful_text.registry.registry
  rw [entitiesOf, textOf, hlawful.decode_tidy]
  generalize Registry.ofList (E.entries.map fun e => (e.1.text, e.2)) = named at hmember
  have hparse : ∀ e ∈ named.entries, (EntityKey.parse? e.1).isSome := by
    rintro ⟨name, f⟩ he
    obtain ⟨key, rfl, -⟩ := hmember.1 ((named.get?_eq_some_iff name f).2 he)
    rw [EntityKey.parse?_text]
    rfl
  dsimp only
  rw [enter_eq hparse]
  refine congrArg Except.ok (Registry.ofList_eq fun key f => ?_)
  simp only [List.mem_filterMap, Option.map_eq_some_iff, Prod.mk.injEq]
  constructor
  · rintro ⟨⟨name, f⟩, he, key, hkey, rfl, rfl⟩
    obtain ⟨key', rfl, he'⟩ := hmember.1 ((named.get?_eq_some_iff name f).2 he)
    rwa [← Option.some.inj (key'.parse?_text.symm.trans hkey)]
  · intro he
    exact ⟨(key.text, f), (named.get?_eq_some_iff _ _).1 (hmember.2 ⟨key, rfl, he⟩), key,
      key.parse?_text, rfl, rfl⟩

/-- A store that was written is the same when it is opened again. -/
theorem reopen_written (E : Registry EntityKey Fields) : (written E).reopen = .ok (written E) := by
  rw [reopen, written, openText, entitiesOf_textOf]
  rfl

end FileStore

/-! ## What a store holds -/

/-- A store that never refuses, and that holds the objects that it was given. A batch
leaves no trace of what the store was before but for the objects that stay. -/
structure Store.Reliable (σ : Type) [Store σ] (entities : σ → Registry EntityKey Fields)
    (make : Registry EntityKey Fields → σ) : Prop where
  keys : ∀ k s, Store.keys k s = .ok (k.keysIn (entities s))
  load : ∀ key s, Store.load key s = .ok ((entities s).get? key)
  applyBatch : ∀ dropped saved s, Store.applyBatch dropped saved s =
    (.ok (), make (FileStore.batch dropped saved (entities s)))
  entities_make : ∀ E, entities (make E) = E

theorem FileStore.reliable : Store.Reliable FileStore FileStore.entities FileStore.written where
  keys _ _ := rfl
  load _ _ := rfl
  applyBatch _ _ _ := rfl
  entities_make _ := rfl

/-- Changes that are not refused are made one after another. -/
theorem Store.each_eq {σ α : Type} {change : α → σ → Except StoreError Unit × σ}
    {step : α → StoreStep} {next : α → σ → σ} (h : ∀ a s, change a s = (.ok (), next a s))
    (as : List α) (s : σ) :
    Store.each change step as s = (.ok (), as.foldl (fun s a => next a s) s) := by
  induction as generalizing s with
  | nil => rfl
  | cons a as ih =>
    rw [Store.each, h]
    exact ih _

theorem MemoryStore.reliable : Store.Reliable MemoryStore MemoryStore.entities MemoryStore.mk where
  keys _ _ := rfl
  load _ _ := rfl
  applyBatch dropped saved s := by
    have hdrop : ∀ (keys : List EntityKey) (s : MemoryStore),
        keys.foldl (fun s key => ⟨s.entities.erase key⟩) s =
          (⟨keys.foldl (fun r key => r.erase key) s.entities⟩ : MemoryStore) := by
      intro keys
      induction keys with
      | nil => exact fun s => rfl
      | cons key keys ih => exact fun s => ih ⟨s.entities.erase key⟩
    have hsave : ∀ (es : List (EntityKey × Fields)) (s : MemoryStore),
        es.foldl (fun s e => ⟨s.entities.insert e.1 e.2⟩) s =
          (⟨es.foldl (fun r e => r.insert e.1 e.2) s.entities⟩ : MemoryStore) := by
      intro es
      induction es with
      | nil => exact fun s => rfl
      | cons e es ih => exact fun s => ih ⟨s.entities.insert e.1 e.2⟩
    -- The store makes the changes of a batch one by one.
    simp only [Store.applyBatch]
    rw [Store.each_eq fun _ _ => rfl]
    dsimp only
    rw [Store.each_eq fun _ _ => rfl, hdrop, hsave]
    rfl
  entities_make _ := rfl

end Interlocking
