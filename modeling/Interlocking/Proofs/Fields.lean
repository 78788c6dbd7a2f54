/-
Reading stored objects back.

The stored form of every object is read back as the object that it is the form of.
A field is read back if its writer and its reader belong together, whatever else is
stored; one lemma for each kind of field says so. Only the fields with several parts
need an argument: between the separators stand written numbers, and a written number
has nothing but digits, so it holds no separator and there is nothing to trim.
-/
import Interlocking.Fields.Codec

set_option autoImplicit false

namespace Interlocking

/-! ## Written numbers -/

theorem Text.isBlank_of_isDigit {c : Char} (h : c.isDigit = true) : Text.isBlank c = false := by
  rw [Char.isDigit, Bool.and_eq_true, decide_eq_true_iff, decide_eq_true_iff] at h
  have hlow : 48 ≤ c.toNat := h.1
  have hhigh : c.toNat ≤ 57 := h.2
  rw [Text.isBlank, List.any_eq_false]
  intro r hr
  simp only [Text.blankRanges, List.mem_cons, List.not_mem_nil, or_false] at hr
  rcases hr with rfl | rfl | rfl | rfl | rfl | rfl | rfl | rfl | rfl | rfl <;> simp <;> omega

theorem Text.trimChars_of_forall {cs : List Char} (h : ∀ c ∈ cs, Text.isBlank c = false) :
    Text.trimChars cs = cs := by
  have hdrop : ∀ {ds : List Char}, (∀ c ∈ ds, Text.isBlank c = false) →
      ds.dropWhile Text.isBlank = ds := by
    intro ds hds
    cases ds with
    | nil => rfl
    | cons d ds => rw [List.dropWhile_cons_of_neg (by simp [hds d List.mem_cons_self])]
  rw [Text.trimChars, hdrop h, hdrop fun c hc => h c (List.mem_reverse.1 hc), List.reverse_reverse]

theorem Text.of_mem_join {sep c : Char} {pieces : List (List Char)}
    (h : c ∈ Text.join sep pieces) : c = sep ∨ ∃ piece ∈ pieces, c ∈ piece := by
  induction pieces with
  | nil => cases h
  | cons piece rest ih =>
    cases rest with
    | nil => exact .inr ⟨piece, List.mem_singleton_self _, h⟩
    | cons next rest =>
      rw [Text.join, List.mem_append, List.mem_cons] at h
      rcases h with h | rfl | h
      · exact .inr ⟨piece, List.mem_cons_self, h⟩
      · exact .inl rfl
      · refine (ih h).imp_right ?_
        rintro ⟨piece', hmem, hc⟩
        exact ⟨piece', List.mem_cons_of_mem _ hmem, hc⟩

namespace Decimal

theorem isDigit_of_mem_chars {n : Nat} {c : Char} (h : c ∈ chars n) : c.isDigit = true :=
  Nat.isDigit_of_mem_toDigits (by decide) (by decide) h

theorem chars_ne_nil (n : Nat) : chars n ≠ [] := Nat.toDigits_ne_nil

/-- A character that is no digit is in no written number. -/
theorem notMem_chars {c : Char} (hc : c.isDigit = false) (n : Nat) : c ∉ chars n := by
  intro h
  rw [isDigit_of_mem_chars h] at hc
  cases hc

theorem toList_text {α : Type} [Word α] (a : α) : (text a).toList = chars (Word.toNat a) := by
  rw [text, String.toList_ofList]

theorem isEmpty_text {α : Type} [Word α] (a : α) : (text a).isEmpty = false := by
  rw [Bool.eq_false_iff, ne_eq, String.isEmpty_iff, ← String.toList_eq_nil_iff, toList_text]
  exact chars_ne_nil _

end Decimal

/-! ## One field -/

namespace Fields

variable {f : Fields} {key : EntityKey} {field : String}

theorem text_of_get? {s : String} (h : f.get? field = some s) : f.text key field = .ok s := by
  rw [text, h]

section Numbers

variable {α : Type} [Word α] {a : α}

theorem word_of_get? (h : f.get? field = some (Decimal.text a)) : f.word key field = .ok a := by
  rw [word, h, Option.bind_some, Decimal.word?_text]

theorem wordOr_of_get? (h : f.get? field = some (Decimal.text a)) (default : α) :
    f.wordOr key field default = .ok a := by
  rw [wordOr, h]
  dsimp only
  rw [Decimal.word?_text]

theorem optional_of_get? {o : Option α} (h : f.get? field = some (ofOptional o)) :
    f.optional key field = .ok o := by
  rw [optional, h]
  cases o with
  | none => rfl
  | some a =>
    dsimp only [ofOptional]
    rw [Decimal.isEmpty_text, Decimal.word?_text]
    rfl

end Numbers

theorem code_of_get? {α : Type} [DecidableEq α] [Enumeration α] {a : α}
    (h : f.get? field = some (ofCode a)) (default : UInt8) :
    f.wordOr key field default = .ok (Enumeration.code a) :=
  wordOr_of_get? h default

theorem flag_of_get? {b : Bool} (h : f.get? field = some (ofFlag b)) :
    f.flag key field = .ok b := by
  have hword : ofFlag b = Decimal.text (if b then 1 else 0 : UInt8) := by
    cases b <;> decide
  rw [flag, wordOr_of_get? (h.trans (congrArg some hword))]
  cases b <;> rfl

/-- A list is read back if every member is, and no written member is empty or holds
the separator. -/
theorem list_of_get? {α : Type} {read? : String → Option α} {write : α → String} {xs : List α}
    (hread : ∀ x ∈ xs, read? (write x) = some x) (hne : ∀ x ∈ xs, (write x).toList ≠ [])
    (hsep : ∀ x ∈ xs, ',' ∉ (write x).toList) (h : f.get? field = some (ofMembers write xs)) :
    f.list key field read? = .ok xs := by
  cases xs with
  | nil =>
    rw [list, h]
    rfl
  | cons x xs =>
    have hpieces : Text.split ',' (ofMembers write (x :: xs)).toList =
        (x :: xs).map fun x => (write x).toList := by
      rw [ofMembers, String.toList_ofList]
      refine Text.split_join (by simp) fun piece hpiece => ?_
      obtain ⟨y, hy, rfl⟩ := List.mem_map.1 hpiece
      exact hsep y hy
    have hfilled : (ofMembers write (x :: xs)).isEmpty = false := by
      rw [Bool.eq_false_iff, ne_eq, String.isEmpty_iff]
      intro hempty
      -- An empty text is cut into one empty piece, and the first piece is not empty.
      rw [hempty, List.map_cons] at hpieces
      exact hne x List.mem_cons_self (List.cons.inj hpieces).1.symm
    have hmembers : ∀ {ys : List α}, (∀ y ∈ ys, read? (write y) = some y) →
        (ys.map fun y => (write y).toList).mapM (fun piece => read? (String.ofList piece)) =
          some ys := by
      intro ys
      induction ys with
      | nil => exact fun _ => rfl
      | cons y ys ih =>
        intro hys
        rw [List.map_cons, List.mapM_cons, String.ofList_toList, hys y List.mem_cons_self,
          ih fun z hz => hys z (List.mem_cons_of_mem _ hz)]
        rfl
    rw [list, h]
    dsimp only
    rw [hfilled, hpieces, hmembers hread]
    rfl

end Fields

/-! ## Members of lists -/

theorem SensorId.ofMember?_text (s : SensorId) :
    SensorId.ofMember? (Decimal.text s.number) = some s := by
  have htrim : Text.trim (Decimal.text s.number) = Decimal.text s.number := by
    rw [Text.trim, Decimal.toList_text, Text.trimChars_of_forall fun c hc =>
      Text.isBlank_of_isDigit (Decimal.isDigit_of_mem_chars hc)]
    rfl
  rw [SensorId.ofMember?, htrim, Decimal.word?_text]
  rfl

namespace PathItem

/-- The parts of a written item. -/
def parts : PathItem → List (List Char)
  | accessory id output =>
    [['a'], Decimal.chars id.number.toNat, Decimal.chars (Enumeration.code output).toNat]
  | segment id => [['t'], Decimal.chars id.number.toNat]

theorem toList_toMember (item : PathItem) : item.toMember.toList = Text.join ':' item.parts := by
  cases item with
  | accessory id output =>
    simp only [toMember, String.toList_append, Decimal.toList_text, parts, Text.join,
      List.append_assoc]
    rfl
  | segment id =>
    simp only [toMember, String.toList_append, Decimal.toList_text, parts, Text.join]
    rfl

/-- What stands in a part: the letter of an item, or digits. -/
theorem of_mem_parts {item : PathItem} {part : List Char} (hpart : part ∈ item.parts) {c : Char}
    (hc : c ∈ part) : c = 'a' ∨ c = 't' ∨ c.isDigit = true := by
  cases item with
  | accessory id output =>
    simp only [parts, List.mem_cons, List.not_mem_nil, or_false] at hpart
    rcases hpart with rfl | rfl | rfl
    · exact .inl (List.mem_singleton.1 hc)
    · exact .inr (.inr (Decimal.isDigit_of_mem_chars hc))
    · exact .inr (.inr (Decimal.isDigit_of_mem_chars hc))
  | segment id =>
    simp only [parts, List.mem_cons, List.not_mem_nil, or_false] at hpart
    rcases hpart with rfl | rfl
    · exact .inr (.inl (List.mem_singleton.1 hc))
    · exact .inr (.inr (Decimal.isDigit_of_mem_chars hc))

/-- What stands in a written item. -/
theorem of_mem_toMember {item : PathItem} {c : Char} (hc : c ∈ item.toMember.toList) :
    c = ':' ∨ c = 'a' ∨ c = 't' ∨ c.isDigit = true := by
  rw [toList_toMember] at hc
  refine (Text.of_mem_join hc).imp_right ?_
  rintro ⟨part, hpart, hc⟩
  exact of_mem_parts hpart hc

theorem ofMember?_toMember (item : PathItem) : ofMember? item.toMember = some item := by
  have hblank : ∀ c ∈ item.toMember.toList, Text.isBlank c = false := by
    intro c hc
    rcases of_mem_toMember hc with rfl | rfl | rfl | hdigit
    · decide
    · decide
    · decide
    · exact Text.isBlank_of_isDigit hdigit
  have hcut : Text.split ':' item.toMember.toList = item.parts := by
    rw [toList_toMember]
    refine Text.split_join (by cases item <;> simp [parts]) fun part hpart hcolon => ?_
    rcases of_mem_parts hpart hcolon with h | h | h <;> cases h
  have hnumber : ∀ {α : Type} [Word α] (a : α),
      Decimal.word? (String.ofList (Decimal.chars (Word.toNat a))) = some a := Decimal.word?_text
  rw [ofMember?, Text.trimChars_of_forall hblank, hcut]
  cases item with
  | accessory id output =>
    have hid : Decimal.word? (String.ofList (Decimal.chars id.number.toNat)) = some id.number :=
      hnumber id.number
    have hcode : Decimal.word? (String.ofList (Decimal.chars (Enumeration.code output).toNat)) =
        some (Enumeration.code output) := hnumber (Enumeration.code output)
    have houtput : Output.ofCode (Enumeration.code output) = output := by cases output <;> decide
    simp only [parts, List.map_cons, List.map_nil]
    change (do
      let id ← Decimal.word? (String.ofList (Decimal.chars id.number.toNat))
      let output ← Decimal.word? (String.ofList (Decimal.chars (Enumeration.code output).toNat))
      return PathItem.accessory ⟨id⟩ (.ofCode output)) = _
    rw [hid, hcode]
    simp only [Option.bind_eq_bind, Option.bind_some, houtput]
    rfl
  | segment id =>
    have hid : Decimal.word? (String.ofList (Decimal.chars id.number.toNat)) = some id.number :=
      hnumber id.number
    simp only [parts, List.map_cons, List.map_nil]
    change (do
      let id ← Decimal.word? (String.ofList (Decimal.chars id.number.toNat))
      return PathItem.segment ⟨id⟩) = _
    rw [hid]
    rfl

end PathItem

/-! ## Every kind of object -/

theorem Enumeration.ofCode_code {α : Type} [DecidableEq α] [Enumeration α]
    (h : (Enumeration.all : List α).length ≤ 256) (fallback a : α) :
    Enumeration.ofCode fallback (Enumeration.code a) = a := by
  rw [Enumeration.ofCode, Enumeration.ofCode?_code h]
  rfl

theorem SensorConfig.ofFields_toFields (c : SensorConfig) :
    SensorConfig.ofFields c.id c.toFields = .ok c := by
  have hstored : ∀ p ∈ (_ : List (String × String)), c.toFields.get? p.1 = some p.2 :=
    Registry.get?_ofList (by simp)
  simp only [List.forall_mem_cons] at hstored
  obtain ⟨hname, haddress, -⟩ := hstored
  rw [ofFields, Fields.text_of_get? hname, Fields.word_of_get? haddress]
  rfl

theorem AccessoryConfig.ofFields_toFields (c : AccessoryConfig) :
    AccessoryConfig.ofFields c.id c.toFields = .ok c := by
  have hstored : ∀ p ∈ (_ : List (String × String)), c.toFields.get? p.1 = some p.2 :=
    Registry.get?_ofList (by simp)
  simp only [List.forall_mem_cons] at hstored
  obtain ⟨hname, hkind, hprotocol, haddress, hstate, -⟩ := hstored
  have hspoken : Protocol.ofField c.id.key (Enumeration.code c.protocol) = .ok c.protocol := by
    rw [Protocol.ofField, Enumeration.ofCode?_code (by decide)]
  rw [ofFields, Fields.code_of_get? hprotocol, Fields.text_of_get? hname, Fields.code_of_get? hkind,
    Fields.word_of_get? haddress, Fields.code_of_get? hstate]
  simp only [bind, Except.bind, hspoken, AccessoryKind.ofCode, Output.ofCode,
    Enumeration.ofCode_code (α := AccessoryKind) (by decide),
    Enumeration.ofCode_code (α := Output) (by decide)]
  rfl

theorem Loco.ofFields_toFields (c : Loco) : Loco.ofFields c.id c.toFields = .ok c := by
  have hstored : ∀ p ∈ (_ : List (String × String)), c.toFields.get? p.1 = some p.2 :=
    Registry.get?_ofList (by simp)
  simp only [List.forall_mem_cons] at hstored
  obtain ⟨hname, hlength, hpushPull, -⟩ := hstored
  rw [ofFields, Fields.text_of_get? hname, Fields.wordOr_of_get? hlength,
    Fields.flag_of_get? hpushPull]
  rfl

theorem SegmentConfig.ofFields_toFields (c : SegmentConfig) :
    SegmentConfig.ofFields c.id c.toFields = .ok c := by
  have hstored : ∀ p ∈ (_ : List (String × String)), c.toFields.get? p.1 = some p.2 :=
    Registry.get?_ofList (by simp)
  simp only [List.forall_mem_cons] at hstored
  obtain ⟨hname, hkind, hlength, hsensors, hwhen, happroach, hblocked, horientation, -⟩ := hstored
  have hlist : c.toFields.list c.id.key "feedbacks" SensorId.ofMember? = .ok c.sensors := by
    refine Fields.list_of_get? (fun s _ => s.ofMember?_text) (fun s _ => ?_) (fun s _ => ?_) hsensors
    · rw [Decimal.toList_text]
      exact Decimal.chars_ne_nil _
    · rw [Decimal.toList_text]
      exact Decimal.notMem_chars (by decide) _
  rw [ofFields, hlist, Fields.text_of_get? hname, Fields.code_of_get? hkind,
    Fields.word_of_get? hlength, Fields.flag_of_get? hwhen, Fields.code_of_get? happroach,
    Fields.flag_of_get? hblocked, Fields.code_of_get? horientation]
  simp only [bind, Except.bind, SegmentKind.ofCode, Approach.ofCode, Orientation.ofCode,
    Enumeration.ofCode_code (α := SegmentKind) (by decide),
    Enumeration.ofCode_code (α := Approach) (by decide),
    Enumeration.ofCode_code (α := Orientation) (by decide)]
  rfl

theorem SensorId.ofField_of_get? {f : Fields} {key : EntityKey} {field : String}
    {s : Option SensorId} (h : f.get? field = some (Fields.ofOptional (s.map Ident.number))) :
    SensorId.ofField f key field = .ok s := by
  rw [SensorId.ofField, Fields.optional_of_get? h]
  cases s <;> rfl

/-- A route is stored together with its stamp. -/
theorem Route.ofFields_toFields (r : Route) : Route.ofFields r.config.id r.toFields = .ok r := by
  have hstored : ∀ p ∈ (_ : List (String × String)), r.toFields.get? p.1 = some p.2 :=
    Registry.get?_ofList (by simp)
  simp only [List.forall_mem_cons] at hstored
  obtain ⟨hname, hpriority, horigin, hdeparture, hdestination, harrival, hitems, hreduced, hcreep,
    hstop, hoverrun, hmin, hmax, htrains, hstamp, -⟩ := hstored
  have hlist : r.toFields.list r.config.id.key "relations" PathItem.ofMember? =
      .ok r.config.items := by
    refine Fields.list_of_get? (fun item _ => item.ofMember?_toMember) (fun item _ hnil => ?_)
      (fun item _ hcomma => ?_) hitems
    · rw [PathItem.toList_toMember] at hnil
      cases item <;> cases hnil
    · rcases PathItem.of_mem_toMember hcomma with h | h | h | h <;> cases h
  rw [ofFields, hlist, SensorId.ofField_of_get? hreduced, SensorId.ofField_of_get? hcreep,
    SensorId.ofField_of_get? hstop, SensorId.ofField_of_get? hoverrun, Fields.text_of_get? hname,
    Fields.word_of_get? horigin, Fields.word_of_get? hdestination,
    Fields.wordOr_of_get? hpriority, Fields.code_of_get? hdeparture, Fields.code_of_get? harrival,
    Fields.wordOr_of_get? hmin, Fields.wordOr_of_get? hmax, Fields.code_of_get? htrains,
    Fields.wordOr_of_get? hstamp]
  simp only [bind, Except.bind, TrainFilter.ofCode, Orientation.ofCode,
    Enumeration.ofCode_code (α := TrainFilter) (by decide),
    Enumeration.ofCode_code (α := Orientation) (by decide)]
  rfl

/-- **The stored form loses nothing.** Whatever the names, the numbers and the lists of
an object are, it is read back from the fields that were written of it, with no error
and with every part as it was; a route comes back together with its stamp. -/
theorem stored_objects_are_read_back :
    (∀ c : SensorConfig, SensorConfig.ofFields c.id c.toFields = .ok c) ∧
      (∀ c : AccessoryConfig, AccessoryConfig.ofFields c.id c.toFields = .ok c) ∧
      (∀ c : Loco, Loco.ofFields c.id c.toFields = .ok c) ∧
      (∀ c : SegmentConfig, SegmentConfig.ofFields c.id c.toFields = .ok c) ∧
      ∀ (c : RouteConfig) (lastUsed : UInt64),
        Route.ofFields c.id (Route.toFields { config := c, lastUsed := lastUsed }) =
          .ok { config := c, lastUsed := lastUsed } :=
  ⟨SensorConfig.ofFields_toFields, AccessoryConfig.ofFields_toFields, Loco.ofFields_toFields,
    SegmentConfig.ofFields_toFields, fun c lastUsed => Route.ofFields_toFields ⟨c, lastUsed⟩⟩

end Interlocking
