/-
What is lost when a file is opened.

The names in a file are texts and the objects are under keys, so a name is read on the
way in. Reading is more liberal than writing: behind the slash a plus sign and zeros make
no difference (`Spelled`). Two names that differ in nothing else mean the same key, and
then the later of them in the order of the names counts and the other is dropped without
a word. The next write takes the dropped object out of the file as well.

Nothing else is lost (`opening_keeps_all_iff`): a file whose names mean different keys is
opened with as many objects as it has names, each with its own fields. That is so for
every file that was written by a store, because a key is written in one way only.
-/
import Interlocking.Proofs.Numerals
import Interlocking.Proofs.Store
import Mathlib.Data.List.Nodup
import Mathlib.Data.List.Perm.Subperm

set_option autoImplicit false

namespace Interlocking

/-! ## The spellings of a key -/

theorem Text.splitOnce_eq_some_iff {sep : Char} {cs before after : List Char} :
    Text.splitOnce sep cs = some (before, after) ↔ sep ∉ before ∧ cs = before ++ sep :: after := by
  refine ⟨fun h => ?_, fun ⟨hsep, hcs⟩ => hcs ▸ Text.splitOnce_append hsep after⟩
  induction cs generalizing before with
  | nil => cases h
  | cons c cs ih =>
    rw [Text.splitOnce] at h
    split at h
    next hc =>
      obtain ⟨rfl, rfl⟩ := Prod.mk.inj (Option.some.inj h)
      exact ⟨List.not_mem_nil, by rw [hc, List.nil_append]⟩
    next hc =>
      obtain ⟨⟨front, back⟩, hparts, heq⟩ := Option.map_eq_some_iff.1 h
      obtain ⟨rfl, rfl⟩ := Prod.mk.inj heq
      obtain ⟨hsep, rfl⟩ := ih hparts
      exact ⟨List.not_mem_cons_of_ne_of_not_mem (fun heq => hc heq.symm) hsep, rfl⟩

theorem Enumeration.ofName?_eq_some_iff {α : Type} [DecidableEq α] [Enumeration α] {s : String}
    {a : α} : Enumeration.ofName? s = some a ↔ s = Enumeration.name a := by
  refine ⟨fun h => ?_, fun h => h ▸ Enumeration.ofName?_name a⟩
  rw [Enumeration.ofName?] at h
  have hname := List.find?_some h
  exact (beq_iff_eq.1 hname).symm

namespace EntityKey

/-- The name means the key: it is the written form of the key but for a plus sign and some
zeros that may stand in front of the number. -/
def Spelled (key : EntityKey) (name : String) : Prop :=
  ∃ sign zeros, (sign = [] ∨ sign = ['+']) ∧ name = String.ofList (key.kind.name.toList ++
    '/' :: (sign ++ (List.replicate zeros '0' ++ Decimal.chars key.number.toNat)))

theorem spelled_iff_denotes {key : EntityKey} {name : String} : key.Spelled name ↔
    ∃ numeral, Decimal.Denotes numeral key.number.toNat ∧
      name.toList = key.kind.name.toList ++ '/' :: numeral := by
  simp only [Decimal.denotes_iff_written, Spelled]
  constructor
  · rintro ⟨sign, zeros, hsign, rfl⟩
    exact ⟨_, ⟨sign, zeros, hsign, rfl⟩, String.toList_ofList⟩
  · rintro ⟨_, ⟨sign, zeros, hsign, rfl⟩, hname⟩
    exact ⟨sign, zeros, hsign, String.toList_inj.1 (hname.trans String.toList_ofList.symm)⟩

/-- **A key is read** from its spellings, and from nothing else. -/
theorem parse?_eq_some_iff {name : String} {key : EntityKey} :
    parse? name = some key ↔ key.Spelled name := by
  rw [spelled_iff_denotes, parse?]
  simp only [Option.bind_eq_bind, Option.bind_eq_some_iff, Prod.exists, Text.splitOnce_eq_some_iff,
    Enumeration.ofName?_eq_some_iff, Decimal.word?_eq_some_iff, String.toList_ofList]
  constructor
  · rintro ⟨kind, numeral, ⟨-, hname⟩, k, hkind, number, hnumber, hkey⟩
    obtain rfl := Option.some.inj hkey
    refine ⟨numeral, hnumber, ?_⟩
    rw [hname, ← String.toList_ofList (l := kind), hkind]
    rfl
  · rintro ⟨numeral, hnumber, hname⟩
    have hslash : '/' ∉ key.kind.name.toList := by cases key.kind <;> decide
    exact ⟨_, numeral, ⟨hslash, hname⟩, key.kind, String.ofList_toList, key.number, hnumber, rfl⟩

theorem Spelled.unique {key key' : EntityKey} {name : String} (h : key.Spelled name)
    (h' : key'.Spelled name) : key = key' :=
  Option.some.inj ((parse?_eq_some_iff.2 h).symm.trans (parse?_eq_some_iff.2 h'))

end EntityKey

/-! ## The objects under the names -/

namespace FileStore

variable {named : Registry String Fields} {entities : Registry EntityKey Fields}
  {entries : List (String × Fields)}

/-- What the objects are that are entered under some names. -/
structure Means (named : Registry String Fields) (entities : Registry EntityKey Fields) :
    Prop where
  /-- Every name is that of a key. -/
  spelled : ∀ name ∈ named.keys, ∃ key : EntityKey, key.Spelled name
  /-- Under a key are the fields of the last of its names. -/
  last : ∀ key f, entities.get? key = some f ↔ ∃ name, named.get? name = some f ∧
    key.Spelled name ∧ ∀ name' ∈ named.keys, key.Spelled name' → (compare name' name).isLE

/-- There is an object for each name, and it has the fields of the name. -/
structure KeepsAll (named : Registry String Fields) (entities : Registry EntityKey Fields) :
    Prop where
  size : entities.size = named.size
  fields : ∀ name f (key : EntityKey), named.get? name = some f → key.Spelled name →
    entities.get? key = some f

/-- The last of some names is entered when all the others are. -/
theorem enter_append_eq_ok_iff {name : String} {f : Fields} {E : Registry EntityKey Fields} :
    enter (entries ++ [(name, f)]) E = .ok entities ↔ ∃ front key, enter entries E = .ok front ∧
      key.Spelled name ∧ entities = front.insert key f := by
  induction entries generalizing E with
  | nil =>
    simp only [List.nil_append, enter, ← EntityKey.parse?_eq_some_iff]
    cases EntityKey.parse? name with
    | none => simp
    | some key => simp [eq_comm]
  | cons e entries ih =>
    simp only [List.cons_append, enter]
    cases EntityKey.parse? e.1 with
    | none => simp
    | some key => exact ih

/-- The fields stand in a list under the last name of a key. -/
def LastNamed (entries : List (String × Fields)) (key : EntityKey) (f : Fields) : Prop :=
  ∃ name, (name, f) ∈ entries ∧ key.Spelled name ∧
    ∀ e ∈ entries, key.Spelled e.1 → (compare e.1 name).isLE

section OneMore

variable {key : EntityKey} {f g : Fields} {name : String}

theorem lastNamed_append_of_spelled (hbefore : ∀ e ∈ entries, compare e.1 name = .lt)
    (hname : key.Spelled name) : LastNamed (entries ++ [(name, g)]) key f ↔ f = g := by
  constructor
  · rintro ⟨name', he, -, hgreatest⟩
    rcases List.mem_append.1 he with he | he
    · have hle := hgreatest (name, g) (by simp) hname
      rw [Std.OrientedCmp.gt_of_lt (hbefore _ he)] at hle
      cases hle
    · exact (Prod.mk.inj (List.mem_singleton.1 he)).2
  · rintro rfl
    refine ⟨name, by simp, hname, fun e he _ => ?_⟩
    rcases List.mem_append.1 he with he | he
    · rw [hbefore e he]
      rfl
    · rw [List.mem_singleton.1 he]
      exact Std.ReflCmp.isLE_rfl

theorem lastNamed_append_of_not_spelled (hname : ¬ key.Spelled name) :
    LastNamed (entries ++ [(name, g)]) key f ↔ LastNamed entries key f := by
  refine exists_congr fun name' => ⟨?_, ?_⟩
  · rintro ⟨he, hname', hgreatest⟩
    refine ⟨(List.mem_append.1 he).resolve_right fun hlast => ?_, hname',
      (List.forall_mem_append.1 hgreatest).1⟩
    exact hname ((Prod.mk.inj (List.mem_singleton.1 hlast)).1 ▸ hname')
  · rintro ⟨he, hname', hgreatest⟩
    refine ⟨List.mem_append_left _ he, hname', List.forall_mem_append.2 ⟨hgreatest, ?_⟩⟩
    exact List.forall_mem_singleton.2 fun h => absurd h hname

end OneMore

/-- The names are entered in their order, so what was entered last under a key stands
under the last of its names. -/
theorem get?_of_enter (hascending : (entries.map Prod.fst).Pairwise fun a b => compare a b = .lt)
    (h : enter entries .empty = .ok entities) (key : EntityKey) (f : Fields) :
    entities.get? key = some f ↔ LastNamed entries key f := by
  induction entries using List.reverseRecOn generalizing entities with
  | nil =>
    obtain rfl := Except.ok.inj h
    exact iff_of_false nofun fun ⟨_, he, _⟩ => absurd he List.not_mem_nil
  | append_singleton entries e ih =>
    obtain ⟨name, g⟩ := e
    obtain ⟨front, key', hfront, hname, rfl⟩ := enter_append_eq_ok_iff.1 h
    rw [List.map_append, List.pairwise_append] at hascending
    have hbefore : ∀ e ∈ entries, compare e.1 name = .lt := fun e he =>
      hascending.2.2 e.1 (List.mem_map_of_mem he) name (by simp)
    rw [Registry.get?_insert]
    split
    next heq =>
      rw [lastNamed_append_of_spelled hbefore (heq ▸ hname), Option.some.injEq, eq_comm]
    next hne =>
      have hother : ¬ key.Spelled name := fun hspelled => hne (hspelled.unique hname)
      rw [lastNamed_append_of_not_spelled hother, ih hascending.1 hfront]

theorem spelled_of_enter {E : Registry EntityKey Fields} (h : enter entries E = .ok entities) :
    ∀ e ∈ entries, ∃ key : EntityKey, key.Spelled e.1 := by
  induction entries generalizing E with
  | nil => exact fun e he => absurd he List.not_mem_nil
  | cons e entries ih =>
    rw [enter] at h
    split at h
    next key hkey =>
      exact List.forall_mem_cons.2 ⟨⟨key, EntityKey.parse?_eq_some_iff.1 hkey⟩, ih h⟩
    next => cases h

theorem means_of_enter (h : enter named.entries .empty = .ok entities) :
    Means named entities where
  spelled := List.forall_mem_map.2 (spelled_of_enter h)
  last key f := by
    rw [get?_of_enter named.pairwise_keys h]
    simp only [LastNamed, Registry.keys, List.forall_mem_map, Registry.get?_eq_some_iff]

/-- The objects of a file that opens are what the names in it mean. -/
theorem exists_means_of_openText {text : String} {s : FileStore}
    (h : openText (some text) = .ok s) :
    ∃ named, form.decode text = .ok named ∧ Means named s.entities := by
  rw [openText, entitiesOf] at h
  split at h
  next named hnamed =>
    cases henter : enter named.entries .empty with
    | error e =>
      rw [henter] at h
      cases h
    | ok entities =>
      rw [henter] at h
      obtain rfl := Except.ok.inj h
      exact ⟨named, hnamed, means_of_enter henter⟩
  next => cases h

/-! ## How many there are -/

/-- The keys that the names mean, in the order of the names. -/
def meant (named : Registry String Fields) : List (Option EntityKey) :=
  named.keys.map EntityKey.parse?

theorem length_meant : (meant named).length = named.size :=
  (List.length_map _).trans named.length_keys

theorem length_some_keys : (entities.keys.map some).length = entities.size :=
  (List.length_map _).trans entities.length_keys

theorem nodup_some_keys : (entities.keys.map some).Nodup :=
  List.Nodup.map (Option.some_injective _) entities.nodup_keys

/-- Each object comes from a name. -/
theorem Means.subperm (h : Means named entities) :
    (entities.keys.map some).Subperm (meant named) := by
  refine List.Nodup.subperm nodup_some_keys fun key? hkey? => ?_
  obtain ⟨key, hkey, rfl⟩ := List.mem_map.1 hkey?
  obtain ⟨f, hf⟩ := (entities.mem_keys_iff_exists key).1 hkey
  obtain ⟨name, hname, hspelled, -⟩ := (h.last key f).1 hf
  exact List.mem_map.2 ⟨name, (named.mem_keys_iff_exists name).2 ⟨f, hname⟩,
    EntityKey.parse?_eq_some_iff.2 hspelled⟩

/-- As many objects as names: then no two names can mean the same key. -/
theorem Means.nodup_meant (h : Means named entities) (hsize : entities.size = named.size) :
    (meant named).Nodup := by
  have hperm : (entities.keys.map some).Perm (meant named) :=
    h.subperm.perm_of_length_le (by rw [length_some_keys, length_meant, hsize])
  exact hperm.nodup_iff.1 nodup_some_keys

/-- Names that mean different keys, and an object for each of them: then there are as many
objects as names. -/
theorem Means.size_eq (h : Means named entities) (hnodup : (meant named).Nodup)
    (hfields : ∀ name f (key : EntityKey), named.get? name = some f → key.Spelled name →
      entities.get? key = some f) : entities.size = named.size := by
  have hsub : meant named ⊆ entities.keys.map some := by
    intro key? hkey?
    obtain ⟨name, hname, rfl⟩ := List.mem_map.1 hkey?
    obtain ⟨f, hf⟩ := (named.mem_keys_iff_exists name).1 hname
    obtain ⟨key, hspelled⟩ := h.spelled name hname
    rw [EntityKey.parse?_eq_some_iff.2 hspelled]
    exact List.mem_map_of_mem
      ((entities.mem_keys_iff_exists key).2 ⟨f, hfields name f key hf hspelled⟩)
  rw [← length_some_keys, ← length_meant]
  exact Nat.le_antisymm h.subperm.length_le (hnodup.subperm hsub).length_le

/-- All is kept if and only if no two names mean the same key. -/
theorem Means.keepsAll_iff (h : Means named entities) : KeepsAll named entities ↔
    ∀ key : EntityKey, ∀ name ∈ named.keys, ∀ name' ∈ named.keys,
      key.Spelled name → key.Spelled name' → name = name' := by
  constructor
  · intro hkeeps key name hname name' hname' hspelled hspelled'
    refine List.inj_on_of_nodup_map (h.nodup_meant hkeeps.size) hname hname' ?_
    rw [EntityKey.parse?_eq_some_iff.2 hspelled, EntityKey.parse?_eq_some_iff.2 hspelled']
  · intro hdifferent
    have hnodup : (meant named).Nodup := by
      refine named.nodup_keys.map_on fun name hname name' hname' heq => ?_
      obtain ⟨key, hspelled⟩ := h.spelled name hname
      rw [EntityKey.parse?_eq_some_iff.2 hspelled] at heq
      exact hdifferent key name hname name' hname' hspelled
        (EntityKey.parse?_eq_some_iff.1 heq.symm)
    have hfields : ∀ name f (key : EntityKey), named.get? name = some f → key.Spelled name →
        entities.get? key = some f := by
      intro name f key hf hspelled
      have hname : name ∈ named.keys := (named.mem_keys_iff_exists name).2 ⟨f, hf⟩
      refine (h.last key f).2 ⟨name, hf, hspelled, fun name' hname' hspelled' => ?_⟩
      rw [hdifferent key name' hname' name hname hspelled' hspelled]
      exact Std.ReflCmp.isLE_rfl
    exact ⟨h.size_eq hnodup hfields, hfields⟩

/-- **What opening a file keeps.** A key is read from a name if and only if the name is the
written form of the key, but for a plus sign and zeros in front of the number. So the objects
of a file that opens are what its names mean: each name is that of a key, and under a key are
the fields of the last of its names. There is an object for each name, with the fields of the
name, if and only if no two names mean the same key. -/
theorem opening_keeps_all_iff {text : String} {s : FileStore}
    (h : openText (some text) = .ok s) :
    (∀ name key, EntityKey.parse? name = some key ↔ key.Spelled name) ∧
    ∃ named, form.decode text = .ok named ∧ Means named s.entities ∧
      (KeepsAll named s.entities ↔ ∀ key : EntityKey, ∀ name ∈ named.keys, ∀ name' ∈ named.keys,
        key.Spelled name → key.Spelled name' → name = name') := by
  obtain ⟨named, hnamed, hmeans⟩ := exists_means_of_openText h
  exact ⟨fun _ _ => EntityKey.parse?_eq_some_iff, named, hnamed, hmeans, hmeans.keepsAll_iff⟩

/-- Two names of different keys, one with a zero and one with a plus sign, are both kept. -/
theorem keeps_all_of_two_keys :
    let text := "\x7b\"loco/+3\":\x7b\x7d,\"track/01\":\x7b\"a\":\"1\"\x7d\x7d"
    ∃ s named, openText (some text) = .ok s ∧ form.decode text = .ok named ∧
      named.keys = ["loco/+3", "track/01"] ∧ KeepsAll named s.entities := by
  intro text
  have hopens : openText (some text) = .ok ⟨.ofList [(⟨.loco, 3⟩, .empty),
      (⟨.segment, 1⟩, .ofList [("a", "1")])], some text⟩ := by decide +kernel
  have hnames : (form.decode text).map Registry.keys = .ok ["loco/+3", "track/01"] := by
    decide +kernel
  obtain ⟨hread, named, hnamed, -, hkeeps⟩ := opening_keeps_all_iff hopens
  rw [hnamed] at hnames
  have hkeys : named.keys = ["loco/+3", "track/01"] := Except.ok.inj hnames
  refine ⟨_, named, hopens, hnamed, hkeys, hkeeps.2 fun key name hname name' hname' h h' => ?_⟩
  rw [hkeys] at hname hname'
  have hinj : ∀ name ∈ ["loco/+3", "track/01"], ∀ name' ∈ ["loco/+3", "track/01"],
      EntityKey.parse? name = EntityKey.parse? name' → name = name' := by decide +kernel
  exact hinj name hname name' hname' (((hread name key).2 h).trans ((hread name' key).2 h').symm)

/-- A name need not be the written form of its key, and a file with two names of one key is
opened with one object. Nothing of the other is in what is written next. -/
theorem loses_one_of_two_spellings :
    let text := "\x7b\"track/1\":\x7b\"a\":\"1\"\x7d,\"track/01\":\x7b\"b\":\"2\"\x7d\x7d"
    let key : EntityKey := ⟨.segment, 1⟩
    EntityKey.parse? "track/01" = some key ∧ key.text ≠ "track/01" ∧
    (form.decode text).map Registry.keys = .ok ["track/01", "track/1"] ∧
    openText (some text) = .ok ⟨.ofList [(key, .ofList [("a", "1")])], some text⟩ ∧
    textOf (.ofList [(key, .ofList [("a", "1")])]) =
      "\x7b\n  \"track/1\": \x7b\n    \"a\": \"1\"\n  \x7d\n\x7d" := by
  decide +kernel

end FileStore
end Interlocking
