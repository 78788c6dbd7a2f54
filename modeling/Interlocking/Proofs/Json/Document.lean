/-
Reading a written value back.

The tokens of a value make the reader add the draft of the value to the container
that is open, wherever a value may stand. A container is read as one item after
another, each behind a comma but for the first; what the reader holds then is the
list so far, last first.
-/
import Interlocking.Json.Form
import Interlocking.Proofs.Json.Tokens

set_option autoImplicit false

namespace Interlocking.Json

/-! ## Values in containers -/

mutual

theorem foldl_tokensOf (frames : List Frame) {expect : Expect}
    (hexpect : expect = .value ∨ expect = .firstItem) :
    ∀ v : Json, (tokensOf v).foldl Builder.step (.inside frames expect) = Builder.add v.draft frames
  | .null => by rcases hexpect with rfl | rfl <;> rfl
  | .bool _ => by rcases hexpect with rfl | rfl <;> rfl
  | .number _ => by rcases hexpect with rfl | rfl <;> rfl
  | .string _ => by rcases hexpect with rfl | rfl <;> rfl
  | .array [] => by rcases hexpect with rfl | rfl <;> rfl
  | .array (v :: vs) => by
    have hopen : Builder.step (.inside frames expect) .beginArray =
        .inside (.items [] :: frames) .firstItem := by
      rcases hexpect with rfl | rfl <;> rfl
    rw [tokensOf, itemTokens, Token.separated, List.cons_append, List.foldl_cons, hopen,
      List.foldl_append, List.foldl_append, foldl_tokensOf _ (.inr rfl) v, Builder.add,
      Frame.add, foldl_items vs]
    simp [Builder.step, Builder.close, Frame.draft, draft, draftItems]
  | .object [] => by rcases hexpect with rfl | rfl <;> rfl
  | .object (m :: ms) => by
    have hopen : Builder.step (.inside frames expect) .beginObject =
        .inside (.members [] none :: frames) .firstKey := by
      rcases hexpect with rfl | rfl <;> rfl
    rw [tokensOf, memberTokens, Token.separated, List.cons_append, List.foldl_cons, hopen,
      List.foldl_append, List.foldl_append, foldl_memberToken _ _ _ (.inr rfl) m,
      foldl_members ms]
    simp [Builder.step, Builder.close, Frame.draft, draft, draftMembers]

theorem foldl_items {frames : List Frame} {done : List Draft} : ∀ vs : List Json,
    ((itemTokens vs).flatMap (Token.comma :: ·)).foldl Builder.step
        (.inside (.items done :: frames) .separator) =
      .inside (.items ((draftItems vs).reverse ++ done) :: frames) .separator
  | [] => rfl
  | v :: vs => by
    have hcomma : Builder.step (.inside (.items done :: frames) .separator) .comma =
        .inside (.items done :: frames) .value := rfl
    rw [itemTokens, List.flatMap_cons, List.cons_append, List.foldl_cons, hcomma,
      List.foldl_append, foldl_tokensOf _ (.inl rfl) v, Builder.add, Frame.add, foldl_items vs,
      draftItems, List.reverse_cons, List.append_assoc, List.singleton_append]

theorem foldl_members {frames : List Frame} {done : List (Option String × Draft)} :
    ∀ ms : List (String × Json), ((memberTokens ms).flatMap (Token.comma :: ·)).foldl Builder.step
        (.inside (.members done none :: frames) .separator) =
      .inside (.members ((draftMembers ms).reverse ++ done) none :: frames) .separator
  | [] => rfl
  | m :: ms => by
    have hcomma : Builder.step (.inside (.members done none :: frames) .separator) .comma =
        .inside (.members done none :: frames) .key := rfl
    rw [memberTokens, List.flatMap_cons, List.cons_append, List.foldl_cons, hcomma,
      List.foldl_append, foldl_memberToken _ _ _ (.inl rfl) m, foldl_members ms, draftMembers,
      List.reverse_cons, List.append_assoc, List.singleton_append]

theorem foldl_memberToken (frames : List Frame) (done : List (Option String × Draft))
    (key : Option String) {expect : Expect} (hexpect : expect = .key ∨ expect = .firstKey) :
    ∀ m : String × Json, (memberToken m).foldl Builder.step
        (.inside (.members done key :: frames) expect) =
      .inside (.members (draftMember m :: done) none :: frames) .separator
  | (name, v) => by
    have hkey : Builder.step (.inside (.members done key :: frames) expect) (.string name) =
        .inside (.members done (some name) :: frames) .colon := by
      rcases hexpect with rfl | rfl <;> rfl
    rw [memberToken, List.foldl_cons, hkey, List.foldl_cons]
    exact foldl_tokensOf (.members done (some name) :: frames) (.inl rfl) v

end

/-! ## Texts -/

/-- **A written value is read back**, and nothing follows it. -/
theorem Document.ofText_tidy (v : Json) : Document.ofText v.tidy = ⟨v.draft, true⟩ := by
  rw [ofText, tokens_tidy, foldl_tokensOf [] (.inl rfl)]
  rfl

theorem Document.ofText_compact (v : Json) : Document.ofText v.compact = ⟨v.draft, true⟩ := by
  rw [ofText, tokens_compact, foldl_tokensOf [] (.inl rfl)]
  rfl

theorem draftMembers_eq_map (ms : List (String × Json)) :
    draftMembers ms = ms.map fun m => (some m.1, m.2.draft) := by
  induction ms with
  | nil => rfl
  | cons m ms ih => rw [draftMembers, ih, List.map_cons, draftMember]

namespace Form

variable {α : Type} {f : Form α}

theorem Lawful.decode_tidy (h : f.Lawful) (a : α) : f.decode (f.write a).tidy = .ok a := by
  rw [decode, Document.ofText_tidy]
  dsimp only
  rw [h a]
  rfl

/-- The text of a value is read back as the value. -/
theorem Lawful.decode_encode (h : f.Lawful) (a : α) : f.decode (f.encode a) = .ok a := by
  rw [decode, encode, Document.ofText_compact]
  dsimp only
  rw [h a]
  rfl

theorem lawful_text : text.Lawful := fun _ => rfl

theorem readEntries_map (h : f.Lawful) (entries : List (String × α)) (r : Registry String α) :
    f.readEntries (entries.map fun e => (some e.1, (f.write e.2).draft)) r =
      .ok (entries.foldl (fun r e => r.insert e.1 e.2) r) := by
  induction entries generalizing r with
  | nil => rfl
  | cons e entries ih =>
    rw [List.map_cons, readEntries, h e.2]
    exact ih _

/-- A map is read back entry by entry. -/
theorem Lawful.registry (h : f.Lawful) : f.registry.Lawful := by
  intro r
  have hentries : r.entries.foldl (fun r e => r.insert e.1 e.2) .empty = r :=
    Registry.ofList_eq fun k a => (r.get?_eq_some_iff k a).symm
  simp only [Form.registry, draft, draftMembers_eq_map, List.map_map, Function.comp_def]
  rw [readEntries_map h, hentries]
  rfl

end Form

end Interlocking.Json
