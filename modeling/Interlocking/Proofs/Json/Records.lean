/-
Records that are read back.

A record is written field by field and read member by member, and what is in between
is the list of slots (`Slots`). Reading what was written fills exactly the slots of the
fields that were written (`fill_members`), and the values for absent fields supply the
others (`build_filled`). Three things are asked of a schema for that: no two fields have
one name, every field has a lawful form, and a value that is not written is the value
of an absent field. `Schema.Lawful` asks for the last two field by field.
-/
import Interlocking.Json.Record
import Interlocking.Proofs.Json.Forms

set_option autoImplicit false

namespace Interlocking.Json

variable {ρ : Type}

/-! ## Schemas -/

namespace Schema

/-- The names of the fields. -/
def names : {σ : Type} → Schema ρ σ → List String
  | _, done => []
  | _, field f rest => f.name :: rest.names

/-- The record that a constructor makes of the fields of `r`. -/
def remake (r : ρ) : {σ : Type} → Schema ρ σ → σ → ρ
  | _, done, made => made
  | _, field f rest, make => rest.remake r (make (f.get r))

/-- The fields of a record are read back one by one, also those that were not written. -/
inductive Lawful : {σ : Type} → Schema ρ σ → Prop where
  | done : Lawful .done
  | field {α σ : Type} {f : Field ρ α} {rest : Schema ρ σ} (hform : f.form.Lawful)
      (hhidden : ∀ a, f.hidden a = true → f.absent = some a) (hrest : rest.Lawful) :
      Lawful (.field f rest)

/-- A field that is always written. -/
theorem Lawful.shown {α σ : Type} {f : Field ρ α} {rest : Schema ρ σ} (hform : f.form.Lawful)
    (hshown : f.hidden = fun _ => false) (hrest : rest.Lawful) : Lawful (.field f rest) := by
  refine .field hform (fun a hidden => ?_) hrest
  rw [hshown] at hidden
  cases hidden

/-- The slots of a record of which the written members have been read. -/
def filled (r : ρ) : {σ : Type} → Schema ρ σ → Slots ρ σ
  | _, done => .done
  | _, field f rest =>
    .slot f (if f.hidden (f.get r) then none else some (f.get r)) (rest.filled r)

theorem fst_mem_names {r : ρ} {σ : Type} {s : Schema ρ σ} {m : String × Json}
    (hm : m ∈ s.members r) : m.1 ∈ s.names := by
  induction s with
  | done => cases hm
  | field f rest ih =>
    rw [members] at hm
    rw [names]
    split at hm
    · exact List.mem_cons_of_mem _ (ih hm)
    · rcases List.mem_cons.1 hm with rfl | hm
      · exact List.mem_cons_self
      · exact List.mem_cons_of_mem _ (ih hm)

end Schema

/-! ## Filling slots -/

namespace Slots

/-- A slot is left alone by members with other names. -/
theorem fill_slot {α σ : Type} {f : Field ρ α} {got : Option α}
    {members : List (Option String × Draft)} (h : ∀ m ∈ members, m.1 ≠ some f.name)
    (rest : Slots ρ σ) :
    fill members (.slot f got rest) = (fill members rest).map (.slot f got) := by
  induction members generalizing rest with
  | nil => rfl
  | cons m members ih =>
    obtain ⟨key, v⟩ := m
    have hmembers : ∀ m ∈ members, m.1 ≠ some f.name :=
      fun m hm => h m (List.mem_cons_of_mem _ hm)
    cases key with
    | none => rfl
    | some key =>
      have hkey : key ≠ f.name := by
        rintro rfl
        exact h _ List.mem_cons_self rfl
      simp only [fill, put, if_neg hkey]
      -- The other slots take the member, or refuse it, or do not know its name.
      cases rest.put key v with
      | none =>
        simp only [Option.map_none]
        split
        · exact ih hmembers rest
        · rfl
      | some e =>
        cases e with
        | error e => rfl
        | ok rest' => exact ih hmembers rest'

end Slots

/-! ## A written record -/

namespace Schema

/-- **What was written fills its own slots**, and leaves the hidden ones empty. -/
theorem Lawful.fill_members {σ : Type} {s : Schema ρ σ} (h : s.Lawful) (hnames : s.names.Nodup)
    (r : ρ) : s.slots.fill (draftMembers (s.members r)) = .ok (s.filled r) := by
  induction h with
  | done => rfl
  | @field α σ f rest hform _ _ ih =>
    obtain ⟨hname, hrest⟩ := List.nodup_cons.1 hnames
    have hother : ∀ m ∈ draftMembers (rest.members r), m.1 ≠ some f.name := by
      intro m hm heq
      rw [draftMembers_eq_map] at hm
      obtain ⟨written, hwritten, rfl⟩ := List.mem_map.1 hm
      have hsame : written.1 = f.name := Option.some.inj heq
      exact hname (hsame ▸ fst_mem_names hwritten)
    rw [members, filled, slots]
    split
    · rw [Slots.fill_slot hother, ih hrest]
      rfl
    · have hread : f.form.read (f.form.write (f.get r)).draft = .ok (f.get r) := hform _
      simp only [draftMembers, draftMember, Slots.fill, Slots.put, if_true, hread, Except.map]
      rw [Slots.fill_slot hother, ih hrest]
      rfl

/-- Full slots make the record again. -/
theorem Lawful.build_filled {σ : Type} {s : Schema ρ σ} (h : s.Lawful) (r : ρ) (make : σ) :
    (s.filled r).build make = .ok (s.remake r make) := by
  induction h with
  | done => rfl
  | @field α σ f rest _ hhidden _ ih =>
    have hgot : ((if f.hidden (f.get r) then none else some (f.get r)) <|> f.absent) =
        some (f.get r) := by
      split
      next hid => exact hhidden _ hid
      next => rfl
    rw [filled, Slots.build, hgot]
    exact ih _

end Schema

/-- **A record is read back** if its schema is lawful, no name is used twice, and its
constructor puts the fields where they were taken from. -/
theorem Form.Lawful.record {σ : Type} {make : σ} {s : Schema ρ σ} (hs : s.Lawful)
    (hnames : s.names.Nodup) (hmake : ∀ r, s.remake r make = r) : (Form.record make s).Lawful := by
  intro r
  simp only [Form.record, draft, hs.fill_members hnames r, if_true]
  rw [hs.build_filled, hmake]

end Interlocking.Json
