/-
Forms that read back what they write.

The law of a form is that reading inverts writing (`Form.Lawful`), and it is proved
form by form: for each scalar by looking at it, and for a form that is made of other
forms from their laws. What a text of a lawful form is read as then follows from what
is known of texts.

An optional value is the one place where a form has to be told more than its law.
Nothing is written as `null`, so something must not be (`Form.NeverNull`).
-/
import Interlocking.Proofs.Json.Document

set_option autoImplicit false

namespace Interlocking.Json

theorem draftItems_eq_map (vs : List Json) : draftItems vs = vs.map draft := by
  induction vs with
  | nil => rfl
  | cons v vs ih => rw [draftItems, ih, List.map_cons]

namespace Form

variable {α β : Type} {f : Form α}

/-! ## Scalars -/

theorem lawful_flag : flag.Lawful := fun _ => rfl

theorem lawful_word (α : Type) [Word α] : (word α).Lawful := by
  intro a
  have hread : (Numeral.ofNat (Word.toNat a)).natural?.bind Word.ofNat? = some a := by
    rw [Numeral.natural?_ofNat, Option.bind_some, Word.ofNat?_toNat]
  simp only [word, draft, hread]

theorem lawful_bounded (capacity : Nat) : (bounded capacity).Lawful := by
  intro b
  simp only [bounded, draft, BoundedText.ofText?_text]

/-! ## Vocabularies -/

section Vocabularies

variable (α) [DecidableEq α] [Enumeration α]

theorem lawful_vocabulary : (vocabulary α).Lawful := by
  intro a
  simp only [vocabulary, draft, Enumeration.ofName?_name]

theorem lawful_named : (named α).Lawful := by
  intro a
  simp only [named, draft, Enumeration.ofName?_name]

end Vocabularies

/-! ## Other types -/

theorem Lawful.map {there : α → β} {back : β → α} (h : f.Lawful)
    (hback : ∀ b, there (back b) = b) : (f.map there back).Lawful := by
  intro b
  rw [Form.map]
  dsimp only
  rw [h (back b), Except.map, hback]

/-- What is left out of a type is never written, so leaving it out does no harm. -/
theorem Lawful.refine {there : α → Option β} {back : β → α} (h : f.Lawful)
    (hback : ∀ b, there (back b) = some b) : (f.refine there back).Lawful := by
  intro b
  simp only [Form.refine, h (back b), hback]

/-! ## Containers -/

/-- Whatever the form writes, it is not `null`. -/
def NeverNull (f : Form α) : Prop := ∀ a, f.write a ≠ .null

theorem neverNull_flag : flag.NeverNull := nofun

theorem neverNull_word (α : Type) [Word α] : (word α).NeverNull := nofun

theorem neverNull_text : text.NeverNull := nofun

theorem Lawful.option (h : f.Lawful) (hnull : f.NeverNull) : f.option.Lawful := by
  intro o
  cases o with
  | none => rfl
  | some a =>
    have hwritten : (f.write a).draft ≠ .null := by
      have hne := hnull a
      intro hdraft
      cases hw : f.write a <;> rw [hw] at hdraft hne
      · exact hne rfl
      all_goals cases hdraft
    have hread : ∀ v, v ≠ Draft.null → f.option.read v = (f.read v).map some := by
      intro v hv
      cases v with
      | null => exact absurd rfl hv
      | bool | number | string | unpaired | array | object | broken => rfl
    have hsame : f.option.write (some a) = f.write a := rfl
    rw [hsame, hread _ hwritten, h a]
    rfl

theorem Lawful.list (h : f.Lawful) : f.list.Lawful := by
  intro as
  have hitems : ∀ as : List α, (as.map fun a => (f.write a).draft).mapM f.read = .ok as := by
    intro as
    induction as with
    | nil => rfl
    | cons a as ih =>
      rw [List.map_cons, List.mapM_cons, h a, ih]
      rfl
  simp only [Form.list, draft, draftItems_eq_map, List.map_map, Function.comp_def, hitems]
  rfl

end Form

end Interlocking.Json
