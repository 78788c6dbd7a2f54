/-
Registries: finite maps with ordered keys.

Everything on a layout is looked up by an id and listed by ascending id, and
the same holds for the entries of a store. A registry is therefore a list of
pairs whose keys ascend strictly. The order is part of the type, which has two
consequences that the rest of the library leans on: listing a registry needs
no sorting, and two registries that answer every look-up alike are equal
(`Registry.ext_get?`), so that "the state is as before" is an equation.
-/

set_option autoImplicit false

namespace Interlocking

/-- A finite map from `κ` to `α`, listed by ascending key. -/
structure Registry (κ α : Type) [Ord κ] where
  /-- The pairs, by ascending key. -/
  entries : List (κ × α)
  sorted : entries.Pairwise fun x y => compare x.1 y.1 = .lt

namespace Registry

variable {κ α : Type} [Ord κ]

/-! ## Lists with ascending keys -/

/-- The value at a key. -/
def find? (k : κ) : List (κ × α) → Option α
  | [] => none
  | (k', a) :: rest => if compare k k' = .eq then some a else find? k rest

/-- Puts a value at a key, in front of the first greater key. -/
def put (k : κ) (a : α) : List (κ × α) → List (κ × α)
  | [] => [(k, a)]
  | (k', a') :: rest =>
    match compare k k' with
    | .lt => (k, a) :: (k', a') :: rest
    | .eq => (k, a) :: rest
    | .gt => (k', a') :: put k a rest

/-- Drops the value at a key. -/
def drop (k : κ) : List (κ × α) → List (κ × α)
  | [] => []
  | (k', a) :: rest => if compare k k' = .eq then rest else (k', a) :: drop k rest

/-! ## Reading a registry -/

/-- The registry without entries. -/
def empty : Registry κ α := ⟨[], .nil⟩

/-- The value registered under a key. -/
def get? (r : Registry κ α) (k : κ) : Option α := find? k r.entries

/-- Whether a key is registered. -/
def contains (r : Registry κ α) (k : κ) : Bool := (r.get? k).isSome

/-- The keys, ascending. -/
def keys (r : Registry κ α) : List κ := r.entries.map Prod.fst

/-- The values, by ascending key. -/
def values (r : Registry κ α) : List α := r.entries.map Prod.snd

/-- The number of entries. -/
def size (r : Registry κ α) : Nat := r.entries.length

/-! ## Changing a registry

Every change keeps the keys ascending, so the order never has to be restored. -/

private theorem mem_put {k : κ} {a : α} {l : List (κ × α)} {x : κ × α} (h : x ∈ put k a l) :
    x = (k, a) ∨ x ∈ l := by
  induction l with
  | nil => simpa [put] using h
  | cons hd tl ih =>
    obtain ⟨k', a'⟩ := hd
    rw [put] at h
    split at h
    · simpa using h
    · rcases List.mem_cons.1 h with h | h
      · exact .inl h
      · exact .inr (List.mem_cons_of_mem _ h)
    · rcases List.mem_cons.1 h with h | h
      · exact .inr (h ▸ List.mem_cons_self)
      · rcases ih h with h | h
        · exact .inl h
        · exact .inr (List.mem_cons_of_mem _ h)

private theorem drop_sublist (k : κ) (l : List (κ × α)) : (drop k l).Sublist l := by
  induction l with
  | nil => exact .slnil
  | cons hd tl ih =>
    rw [drop]
    split
    · exact List.sublist_cons_self _ _
    · exact ih.cons_cons _

variable [Std.TransOrd κ] [Std.LawfulEqOrd κ]

private theorem pairwise_put {k : κ} {a : α} {l : List (κ × α)}
    (h : l.Pairwise fun x y => compare x.1 y.1 = .lt) :
    (put k a l).Pairwise fun x y => compare x.1 y.1 = .lt := by
  induction l with
  | nil => simp [put]
  | cons hd tl ih =>
    obtain ⟨k', a'⟩ := hd
    obtain ⟨hhd, htl⟩ := List.pairwise_cons.1 h
    rw [put]
    split
    · next hlt =>
      refine List.pairwise_cons.2 ⟨fun x hx => ?_, h⟩
      rcases List.mem_cons.1 hx with rfl | hx
      · exact hlt
      · exact Std.TransCmp.lt_trans hlt (hhd x hx)
    · next heq =>
      have hk : k = k' := Std.LawfulEqCmp.eq_of_compare heq
      exact List.pairwise_cons.2 ⟨fun x hx => hk ▸ hhd x hx, htl⟩
    · next hgt =>
      refine List.pairwise_cons.2 ⟨fun x hx => ?_, ih htl⟩
      rcases mem_put hx with rfl | hx
      · exact Std.OrientedCmp.lt_of_gt hgt
      · exact hhd x hx

/-- Registers a value, in place of the one that was registered under the key. -/
def insert (r : Registry κ α) (k : κ) (a : α) : Registry κ α :=
  ⟨put k a r.entries, pairwise_put r.sorted⟩

/-- Removes a key; an unknown one changes nothing. -/
def erase (r : Registry κ α) (k : κ) : Registry κ α :=
  ⟨drop k r.entries, r.sorted.sublist (drop_sublist k _)⟩

/-- Changes the value at a key; an unknown key changes nothing. -/
def modify (r : Registry κ α) (k : κ) (f : α → α) : Registry κ α :=
  match r.get? k with
  | some a => r.insert k (f a)
  | none => r

/-- The registry of a list of pairs; of two pairs with one key the later wins. -/
def ofList (l : List (κ × α)) : Registry κ α :=
  l.foldl (fun r p => r.insert p.1 p.2) empty

/-! ## Look-ups

One equation per operation: after these nobody has to look at the list. -/

omit [Std.TransOrd κ] in
private theorem find?_put [DecidableEq κ] (k k' : κ) (a : α) (l : List (κ × α)) :
    find? k' (put k a l) = if k' = k then some a else find? k' l := by
  induction l with
  | nil =>
    by_cases h : k' = k <;> simp [put, find?, h]
  | cons hd tl ih =>
    obtain ⟨k'', a''⟩ := hd
    rw [put]
    split
    · next hlt => by_cases h : k' = k <;> simp [find?, h]
    · next heq =>
      have hk : k = k'' := Std.LawfulEqCmp.eq_of_compare heq
      subst hk
      by_cases h : k' = k <;> simp [find?, h]
    · next hgt =>
      have hk : k ≠ k'' := by
        rintro rfl
        simp at hgt
      by_cases h : k' = k
      · subst h
        simp [find?, hk, ih]
      · by_cases h' : k' = k'' <;> simp [find?, h, h', hk.symm, ih]

omit [Std.TransOrd κ] [Std.LawfulEqOrd κ] in
private theorem find?_eq_none_of_lt {k : κ} {l : List (κ × α)}
    (h : ∀ x ∈ l, compare k x.1 = .lt) : find? k l = none := by
  induction l with
  | nil => rfl
  | cons hd tl ih =>
    have hhd := h hd List.mem_cons_self
    rw [find?, if_neg (by rw [hhd]; decide), ih fun x hx => h x (List.mem_cons_of_mem _ hx)]

omit [Std.TransOrd κ] in
private theorem find?_drop [DecidableEq κ] (k k' : κ) {l : List (κ × α)}
    (h : l.Pairwise fun x y => compare x.1 y.1 = .lt) :
    find? k' (drop k l) = if k' = k then none else find? k' l := by
  induction l with
  | nil => simp [drop, find?]
  | cons hd tl ih =>
    obtain ⟨k'', a⟩ := hd
    obtain ⟨hhd, htl⟩ := List.pairwise_cons.1 h
    rw [drop]
    split
    · next heq =>
      have hk : k = k'' := Std.LawfulEqCmp.eq_of_compare heq
      subst hk
      by_cases h' : k' = k
      · subst h'
        simpa using find?_eq_none_of_lt hhd
      · simp [find?, h']
    · next hne =>
      have hk : k ≠ k'' := fun e => hne (by simp [e])
      by_cases h' : k' = k
      · subst h'
        simp [find?, hk, ih htl]
      · by_cases h'' : k' = k'' <;> simp [find?, h', h'', hk.symm, ih htl]

omit [Std.TransOrd κ] [Std.LawfulEqOrd κ] in
@[simp] theorem get?_empty (k : κ) : (empty : Registry κ α).get? k = none := rfl

theorem get?_insert [DecidableEq κ] (r : Registry κ α) (k k' : κ) (a : α) :
    (r.insert k a).get? k' = if k' = k then some a else r.get? k' :=
  find?_put k k' a r.entries

@[simp] theorem get?_insert_self [DecidableEq κ] (r : Registry κ α) (k : κ) (a : α) :
    (r.insert k a).get? k = some a := by
  rw [get?_insert, if_pos rfl]

theorem get?_insert_of_ne [DecidableEq κ] (r : Registry κ α) {k k' : κ} (h : k' ≠ k) (a : α) :
    (r.insert k a).get? k' = r.get? k' := by
  rw [get?_insert, if_neg h]

omit [Std.TransOrd κ] in
theorem get?_erase [DecidableEq κ] (r : Registry κ α) (k k' : κ) :
    (r.erase k).get? k' = if k' = k then none else r.get? k' :=
  find?_drop k k' r.sorted

theorem get?_modify [DecidableEq κ] (r : Registry κ α) (k k' : κ) (f : α → α) :
    (r.modify k f).get? k' = if k' = k then (r.get? k').map f else r.get? k' := by
  rw [modify]
  split
  next a ha =>
    rw [get?_insert]
    by_cases h : k' = k
    · subst h
      rw [if_pos rfl, if_pos rfl, ha, Option.map_some]
    · rw [if_neg h, if_neg h]
  next ha =>
    by_cases h : k' = k
    · subst h
      rw [if_pos rfl, ha, Option.map_none]
    · rw [if_neg h]

/-! ## Many pairs at once -/

/-- Keys that do not come up stay as they are. -/
theorem get?_foldl_insert_of_notMem [DecidableEq κ] {l : List (κ × α)} {r : Registry κ α} {k : κ}
    (h : ∀ a, (k, a) ∉ l) : (l.foldl (fun r p => r.insert p.1 p.2) r).get? k = r.get? k := by
  induction l generalizing r with
  | nil => rfl
  | cons p l ih =>
    have hne : k ≠ p.1 := by
      rintro rfl
      exact h p.2 List.mem_cons_self
    rw [List.foldl_cons, ih fun a ha => h a (List.mem_cons_of_mem _ ha), get?_insert_of_ne _ hne]

/-- A key that comes up with one value only has that value in the end. -/
theorem get?_foldl_insert_of_mem [DecidableEq κ] {l : List (κ × α)} {r : Registry κ α} {k : κ}
    {a : α} (h : (k, a) ∈ l) (honly : ∀ b, (k, b) ∈ l → b = a) :
    (l.foldl (fun r p => r.insert p.1 p.2) r).get? k = some a := by
  induction l generalizing r with
  | nil => cases h
  | cons p l ih =>
    have hrest : ∀ b, (k, b) ∈ l → b = a := fun b hb => honly b (List.mem_cons_of_mem _ hb)
    rw [List.foldl_cons]
    by_cases hmem : (k, a) ∈ l
    · exact ih hmem hrest
    · obtain rfl : (k, a) = p := (List.mem_cons.1 h).resolve_right hmem
      have hout : ∀ b, (k, b) ∉ l := by
        intro b hb
        obtain rfl := hrest b hb
        exact hmem hb
      rw [get?_foldl_insert_of_notMem hout, get?_insert_self]

omit [Ord κ] [Std.TransOrd κ] [Std.LawfulEqOrd κ] in
/-- Where every key comes once it has one value. -/
theorem eq_of_mem_of_nodup {l : List (κ × α)} (h : (l.map Prod.fst).Nodup) {k : κ} {a b : α}
    (ha : (k, a) ∈ l) (hb : (k, b) ∈ l) : a = b := by
  induction l with
  | nil => cases ha
  | cons p l ih =>
    rw [List.map_cons, List.nodup_cons] at h
    rcases List.mem_cons.1 ha with hfirst | hlater
    · rcases List.mem_cons.1 hb with hfirst' | hlater'
      · exact (Prod.mk.inj (hfirst.trans hfirst'.symm)).2
      · exact (h.1 (List.mem_map.2 ⟨_, hlater', by rw [← hfirst]⟩)).elim
    · rcases List.mem_cons.1 hb with hfirst' | hlater'
      · exact (h.1 (List.mem_map.2 ⟨_, hlater, by rw [← hfirst']⟩)).elim
      · exact ih h.2 hlater hlater'

/-- A list in which every key comes once is a registry as it stands. -/
theorem get?_ofList [DecidableEq κ] {l : List (κ × α)} (h : (l.map Prod.fst).Nodup) :
    ∀ p ∈ l, (ofList l).get? p.1 = some p.2 := by
  rintro ⟨k, a⟩ hp
  exact get?_foldl_insert_of_mem hp fun b hb => eq_of_mem_of_nodup h hb hp

theorem get?_ofList_eq_some_iff [DecidableEq κ] {l : List (κ × α)} (h : (l.map Prod.fst).Nodup)
    {k : κ} {a : α} : (ofList l).get? k = some a ↔ (k, a) ∈ l := by
  refine ⟨fun ha => ?_, fun ha => get?_ofList h (k, a) ha⟩
  by_cases hk : ∃ b, (k, b) ∈ l
  · obtain ⟨b, hb⟩ := hk
    rwa [Option.some.inj (ha.symm.trans (get?_ofList h (k, b) hb))]
  · cases ha.symm.trans (get?_foldl_insert_of_notMem fun b hb => hk ⟨b, hb⟩)

omit [Std.TransOrd κ] in
/-- Keys that are dropped one after another are gone. -/
theorem get?_foldl_erase [DecidableEq κ] {ks : List κ} {r : Registry κ α} {k : κ} :
    (ks.foldl (fun r k => r.erase k) r).get? k = if k ∈ ks then none else r.get? k := by
  induction ks generalizing r with
  | nil => simp
  | cons k' ks ih =>
    rw [List.foldl_cons, ih, get?_erase]
    by_cases hk : k = k' <;> by_cases hks : k ∈ ks <;> simp [hk, hks]

/-! ## Equal look-ups, equal registries -/

omit [Std.TransOrd κ] in
private theorem find?_eq_some_iff {l : List (κ × α)}
    (h : l.Pairwise fun x y => compare x.1 y.1 = .lt) (k : κ) (a : α) :
    find? k l = some a ↔ (k, a) ∈ l := by
  induction l with
  | nil => simp [find?]
  | cons hd tl ih =>
    obtain ⟨k', a'⟩ := hd
    obtain ⟨hhd, htl⟩ := List.pairwise_cons.1 h
    by_cases hk : k = k'
    · subst hk
      have hout : (k, a) ∉ tl := fun m => by simpa using hhd _ m
      simp [find?, hout, eq_comm]
    · simp [find?, hk, ih htl]

omit [Std.TransOrd κ] in
/-- A pair is an entry exactly when its key is registered with its value. -/
theorem get?_eq_some_iff (r : Registry κ α) (k : κ) (a : α) :
    r.get? k = some a ↔ (k, a) ∈ r.entries :=
  find?_eq_some_iff r.sorted k a

omit [Std.TransOrd κ] in
/-- A key is listed exactly when it is registered. -/
theorem mem_keys_iff (r : Registry κ α) (k : κ) : k ∈ r.keys ↔ (r.get? k).isSome := by
  rw [Option.isSome_iff_exists]
  simp only [get?_eq_some_iff, keys, List.mem_map]
  constructor
  · rintro ⟨⟨k', a⟩, hmem, rfl⟩
    exact ⟨a, hmem⟩
  · rintro ⟨a, hmem⟩
    exact ⟨(k, a), hmem, rfl⟩

omit [Std.TransOrd κ] in
theorem mem_keys_iff_exists (r : Registry κ α) (k : κ) : k ∈ r.keys ↔ ∃ a, r.get? k = some a := by
  rw [mem_keys_iff, Option.isSome_iff_exists]

omit [Std.TransOrd κ] [Std.LawfulEqOrd κ] in
theorem length_keys (r : Registry κ α) : r.keys.length = r.size := List.length_map _

omit [Std.TransOrd κ] in
/-- A value is listed exactly when it is registered. -/
theorem mem_values_iff (r : Registry κ α) (a : α) : a ∈ r.values ↔ ∃ k, r.get? k = some a := by
  simp only [get?_eq_some_iff, values, List.mem_map]
  constructor
  · rintro ⟨⟨k, a⟩, hmem, rfl⟩
    exact ⟨k, hmem⟩
  · rintro ⟨k, hmem⟩
    exact ⟨(k, a), hmem, rfl⟩

omit [Std.TransOrd κ] [Std.LawfulEqOrd κ] in
theorem pairwise_keys (r : Registry κ α) : r.keys.Pairwise fun k k' => compare k k' = .lt :=
  List.pairwise_map.2 r.sorted

omit [Std.TransOrd κ] in
theorem nodup_of_ascending {ks : List κ} (h : ks.Pairwise fun k k' => compare k k' = .lt) :
    ks.Nodup := by
  refine h.imp fun {k k'} hlt heq => ?_
  rw [heq] at hlt
  cases hlt.symm.trans Std.ReflCmp.compare_self

omit [Std.TransOrd κ] in
/-- No key is listed twice. -/
theorem nodup_keys (r : Registry κ α) : r.keys.Nodup := nodup_of_ascending r.pairwise_keys

/-- The keys are told by what is registered: they are ascending, and that leaves one
order only. -/
theorem keys_eq {r : Registry κ α} {ks : List κ}
    (hks : ks.Pairwise fun k k' => compare k k' = .lt)
    (h : ∀ k, k ∈ ks ↔ (r.get? k).isSome) : r.keys = ks := by
  have hperm : r.keys.Perm ks :=
    (List.perm_ext_iff_of_nodup r.nodup_keys (nodup_of_ascending hks)).2 fun k =>
      (mem_keys_iff r k).trans (h k).symm
  refine hperm.eq_of_pairwise (fun k k' _ _ hlt hgt => ?_) r.pairwise_keys hks
  cases (Std.OrientedCmp.gt_of_lt hlt).symm.trans hgt

/-- Registries of different things list the same keys if the same keys are
registered. -/
theorem keys_congr {β : Type} {r : Registry κ α} {s : Registry κ β}
    (h : ∀ k, (r.get? k).isSome = (s.get? k).isSome) : r.keys = s.keys := by
  refine keys_eq s.pairwise_keys fun k => ?_
  rw [mem_keys_iff, h]

/-- A key that is greater than all others comes last. -/
theorem keys_insert_of_lt [DecidableEq κ] {r : Registry κ α} {k : κ}
    (h : ∀ k' ∈ r.keys, compare k' k = .lt) (a : α) : (r.insert k a).keys = r.keys ++ [k] := by
  refine keys_eq (List.pairwise_append.2 ⟨r.pairwise_keys, List.pairwise_singleton _ _, ?_⟩) ?_
  · intro k' hk' l hl
    rw [List.mem_singleton.1 hl]
    exact h k' hk'
  · intro k'
    rw [List.mem_append, List.mem_singleton, mem_keys_iff, get?_insert]
    by_cases hk : k' = k <;> simp [hk]

private theorem eq_of_forall_find? {l₁ l₂ : List (κ × α)}
    (h₁ : l₁.Pairwise fun x y => compare x.1 y.1 = .lt)
    (h₂ : l₂.Pairwise fun x y => compare x.1 y.1 = .lt)
    (h : ∀ k, find? k l₁ = find? k l₂) : l₁ = l₂ := by
  induction l₁ generalizing l₂ with
  | nil =>
    cases l₂ with
    | nil => rfl
    | cons hd tl => simpa [find?] using h hd.1
  | cons x xs ih =>
    obtain ⟨hx, hxs⟩ := List.pairwise_cons.1 h₁
    cases l₂ with
    | nil => simpa [find?] using h x.1
    | cons y ys =>
      obtain ⟨hy, hys⟩ := List.pairwise_cons.1 h₂
      have hxmem : x ∈ y :: ys :=
        (find?_eq_some_iff h₂ x.1 x.2).1 (h x.1 ▸ by simp [find?])
      have hymem : y ∈ x :: xs :=
        (find?_eq_some_iff h₁ y.1 y.2).1 ((h y.1).symm ▸ by simp [find?])
      have hxy : x = y := by
        rcases List.mem_cons.1 hxmem with hx' | hx'
        · exact hx'
        · rcases List.mem_cons.1 hymem with hy' | hy'
          · exact hy'.symm
          · have := Std.TransCmp.lt_trans (hx y hy') (hy x hx')
            simp at this
      subst hxy
      have htl : xs = ys := by
        refine ih hxs hys fun k => ?_
        by_cases hk : k = x.1
        · subst hk
          rw [find?_eq_none_of_lt hx, find?_eq_none_of_lt hy]
        · have := h k
          simpa [find?, hk] using this
      rw [htl]

/-- Two registries that answer every look-up alike are equal. -/
theorem ext_get? {r₁ r₂ : Registry κ α} (h : ∀ k, r₁.get? k = r₂.get? k) : r₁ = r₂ := by
  obtain ⟨l₁, h₁⟩ := r₁
  obtain ⟨l₂, h₂⟩ := r₂
  congr
  exact eq_of_forall_find? h₁ h₂ h

/-- The registry of the pairs that another one holds is that one. -/
theorem ofList_eq [DecidableEq κ] {l : List (κ × α)} {r : Registry κ α}
    (h : ∀ k a, (k, a) ∈ l ↔ r.get? k = some a) : ofList l = r := by
  refine ext_get? fun k => ?_
  cases hr : r.get? k with
  | none =>
    refine get?_foldl_insert_of_notMem fun a ha => ?_
    cases hr.symm.trans ((h k a).1 ha)
  | some a =>
    refine get?_foldl_insert_of_mem ((h k a).2 hr) fun b hb => ?_
    exact Option.some.inj (((h k b).1 hb).symm.trans hr)

/-- Of two values registered under one key the later stays. -/
@[simp] theorem insert_insert [DecidableEq κ] (r : Registry κ α) (k : κ) (a b : α) :
    (r.insert k a).insert k b = r.insert k b := by
  refine ext_get? fun k' => ?_
  by_cases h : k' = k
  · rw [h, get?_insert_self, get?_insert_self]
  · rw [get?_insert_of_ne _ h, get?_insert_of_ne _ h, get?_insert_of_ne _ h]

/-- A key that is not registered leaves nothing to remove. -/
theorem erase_of_get?_eq_none [DecidableEq κ] {r : Registry κ α} {k : κ} (h : r.get? k = none) :
    r.erase k = r := by
  refine ext_get? fun k' => ?_
  rw [get?_erase]
  split
  · next heq => rw [heq, h]
  · rfl

/-- What was registered under a new key and is removed again leaves no trace. -/
theorem erase_insert [DecidableEq κ] {r : Registry κ α} {k : κ} {a : α} (h : r.get? k = none) :
    (r.insert k a).erase k = r := by
  refine ext_get? fun k' => ?_
  rw [get?_erase]
  split
  next heq => rw [heq, h]
  next hne => rw [get?_insert_of_ne _ hne]

/-- Registering what is registered already changes nothing. -/
theorem insert_eq_self [DecidableEq κ] {r : Registry κ α} {k : κ} {a : α}
    (h : r.get? k = some a) : r.insert k a = r := by
  refine ext_get? fun k' => ?_
  by_cases hk : k' = k
  · rw [hk, get?_insert_self, h]
  · rw [get?_insert_of_ne _ hk]

end Registry

instance {κ α : Type} [Ord κ] [DecidableEq κ] [DecidableEq α] : DecidableEq (Registry κ α) :=
  fun r s =>
    if h : r.entries = s.entries then
      .isTrue (by cases r; cases s; cases h; rfl)
    else .isFalse fun e => h (e ▸ rfl)

instance {κ α : Type} [Ord κ] [Std.TransOrd κ] [Std.LawfulEqOrd κ] : Inhabited (Registry κ α) :=
  ⟨.empty⟩

end Interlocking
