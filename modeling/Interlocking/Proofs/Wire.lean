/-
What is sent or configured is read back.

Each record that goes over the wire or stands in a file of settings has a form, and
here every one of these forms is shown to read back what it writes, by the law of
records and the laws of the fields. Two forms are no plain records. A lock is some of
the pairs of a stage and a holder, and it never has one of the other pairs. An item of
a route has its kind among its members, and the other members are kept until the kind
is known; to be kept, their numbers have to be in range, which the number of an id is.

The statement about texts is `wire_formats_round_trip`: what the reader makes of the
text that the writer makes of a value is the value.
-/
import Interlocking.Proofs.Json.Records
import Interlocking.Settings
import Interlocking.Web.Message

set_option autoImplicit false

namespace Interlocking

open Json (Form)

/-! ## Numbers that can be kept -/

/-- A number of no more binary digits than are kept is not rounded. -/
theorem Rounding.real_of_lt {n : Nat} (h : n < 2 ^ 53) : real n = n := by
  have hlog : n.log2 < 53 := by
    by_cases hzero : n = 0
    · rw [hzero]
      decide
    · exact (Nat.log2_lt hzero).2 h
  have hunit : Nat.pow 2 (n.log2 + 1 - 53) = 1 := by
    have hnone : n.log2 + 1 - 53 = 0 := by omega
    rw [hnone]
  have hnearest : nearest n 1 = n := by
    simp [nearest, Nat.mod_one]
  rw [real, binary, hunit, hnearest, Nat.mul_one]

theorem Decimal.foldl_digits {cs : List Char} {acc n : Nat} (h : digitsFrom? acc cs = some n) :
    (cs.filterMap digit?).foldl (fun n d => 10 * n + d) acc = n := by
  induction cs generalizing acc with
  | nil => exact Option.some.inj h
  | cons c cs ih =>
    rw [digitsFrom?] at h
    rw [List.filterMap_cons]
    cases hd : digit? c with
    | none =>
      rw [hd] at h
      cases h
    | some d =>
      rw [hd] at h
      exact ih h

namespace Numeral

/-- More digits make no number smaller. -/
theorem le_foldl_digits (n : Nat) (ds : List Nat) : n ≤ ds.foldl (fun n d => 10 * n + d) n := by
  induction ds generalizing n with
  | nil => exact Nat.le_refl n
  | cons d ds ih =>
    have hnext := ih (10 * n + d)
    rw [List.foldl_cons]
    omega

/-- Digits that a machine word holds together are all appended. -/
theorem appendDigits_eq {n : Nat} {ds : List Nat}
    (h : ds.foldl (fun n d => 10 * n + d) n < Word.bound UInt64) :
    appendDigits n ds = (ds.foldl (fun n d => 10 * n + d) n, 0) := by
  induction ds generalizing n with
  | nil => rfl
  | cons d ds ih =>
    rw [List.foldl_cons] at h
    have hfirst : 10 * n + d < Word.bound UInt64 :=
      Nat.lt_of_le_of_lt (le_foldl_digits _ ds) h
    rw [appendDigits, if_pos hfirst, ih h, List.foldl_cons]

theorem kept_ofNat {n : Nat} (h : n < Word.bound UInt64) : (ofNat n).kept = (n, 0) := by
  have hdigits : ((Decimal.chars n).filterMap Decimal.digit?).foldl (fun n d => 10 * n + d) 0 = n :=
    Decimal.foldl_digits (Decimal.digitsFrom?_chars n)
  have happended := appendDigits_eq (n := 0) (by rwa [hdigits])
  rw [hdigits] at happended
  simp [kept, ofNat, happended, appendDigits]

/-- The number of an id is in range. -/
theorem outOfRange_ofNat {n : Nat} (h : n < 2 ^ 53) : (ofNat n).outOfRange = false := by
  have hbound : Word.bound UInt64 = 2 ^ 64 := rfl
  have hkept : (ofNat n).kept = (n, 0) := kept_ofNat (by rw [hbound]; omega)
  have hone : Rounding.real (Nat.pow 10 (0 : Int).toNat) = 1 := Rounding.real_of_lt (by decide)
  have hfar : 2 ^ 53 ≤ realBound := by decide +kernel
  have hless : n < realBound := Nat.lt_of_lt_of_le h hfar
  rw [outOfRange, hkept]
  dsimp only
  rw [hone, Rounding.real_of_lt h, Nat.mul_one]
  simp [hless]

end Numeral

/-! ## Objects -/

theorem Ident.lawful_form (k : Kind) : (Ident.form k).Lawful :=
  (Form.lawful_word UInt32).map fun _ => rfl

theorem Ident.neverNull_form (k : Kind) : (Ident.form k).NeverNull := nofun

theorem SensorConfig.lawful_form : SensorConfig.form.Lawful := by
  refine .record ?_ (by decide) fun _ => rfl
  exact .shown (Ident.lawful_form .sensor) rfl <|
    .shown Form.lawful_text rfl <|
    .shown (Form.lawful_word UInt16) rfl .done

theorem Loco.lawful_form : Loco.form.Lawful := by
  refine .record ?_ (by decide) fun _ => rfl
  exact .shown (Ident.lawful_form .loco) rfl <|
    .shown Form.lawful_text rfl <|
    .shown (Form.lawful_word UInt16) rfl <|
    .shown Form.lawful_flag rfl .done

theorem AccessoryConfig.lawful_form : AccessoryConfig.form.Lawful := by
  refine .record ?_ (by decide) fun _ => rfl
  exact .shown (Ident.lawful_form .accessory) rfl <|
    .shown Form.lawful_text rfl <|
    .shown (Form.lawful_vocabulary AccessoryKind) rfl <|
    .shown (Form.lawful_vocabulary Protocol) rfl <|
    .shown (Form.lawful_word UInt16) rfl <|
    .shown (Form.lawful_vocabulary Output) rfl .done

theorem SegmentConfig.lawful_form : SegmentConfig.form.Lawful := by
  refine .record ?_ (by decide) fun _ => rfl
  exact .shown (Ident.lawful_form .segment) rfl <|
    .shown Form.lawful_text rfl <|
    .shown (Form.lawful_vocabulary SegmentKind) rfl <|
    .shown (Form.lawful_word UInt16) rfl <|
    .shown (Ident.lawful_form .sensor).list rfl <|
    .shown Form.lawful_flag rfl <|
    .shown (Form.lawful_vocabulary Approach) rfl <|
    .shown Form.lawful_flag rfl <|
    .shown (Form.lawful_vocabulary Orientation) rfl .done

/-! ## Items of routes -/

namespace PathItem

/-- The number of an id can be kept, at any depth. -/
theorem keepable_id {k : Kind} (id : Ident k) (room : Nat) :
    ((Ident.form k).write id).draft.keepable room = true := by
  have hword : id.number.toNat < 2 ^ 32 := id.number.toNat_lt
  have hrange : (Numeral.ofNat id.number.toNat).outOfRange = false :=
    Numeral.outOfRange_ofNat (by omega)
  have hdraft : ((Ident.form k).write id).draft = .number (.ofNat id.number.toNat) := rfl
  rw [hdraft, Json.Draft.keepable, hrange]
  rfl

theorem lawful_accessoryForm : accessoryForm.Lawful := by
  have houtput : keptOutput.Lawful := Form.lawful_vocabulary Output
  refine .record ?_ (by decide) fun _ => rfl
  exact .shown (Ident.lawful_form .accessory) rfl <|
    .shown houtput rfl .done

theorem lawful_segmentForm : segmentForm.Lawful := by
  refine .record ?_ (by decide) fun _ => rfl
  exact .shown (Ident.lawful_form .segment) rfl .done

/-- The kind stands in front, and the members that were kept are those of the kind. -/
theorem sortMembers_written (room : Nat) (tag : Tag) {members : List (Option String × Json.Draft)}
    (h : ∀ m ∈ members, ∃ key, m.1 = some key ∧ key ≠ "type" ∧ m.2.keepable room = true) :
    sortMembers room ((some "type", .string (Enumeration.name tag)) :: members) none [] =
      .ok (some tag, members.reverse) := by
  have htag : Tag.form.read (.string (Enumeration.name tag)) = .ok tag := Form.lawful_named Tag tag
  have hrest : ∀ kept, sortMembers room members (some tag) kept =
      .ok (some tag, members.reverse ++ kept) := by
    induction members with
    | nil => exact fun _ => rfl
    | cons m members ih =>
      intro kept
      obtain ⟨key, hkey, hne, hkeep⟩ := h m List.mem_cons_self
      obtain ⟨_, v⟩ := m
      obtain rfl : _ = some key := hkey
      rw [sortMembers, if_neg hne, if_pos hkeep,
        ih fun m hm => h m (List.mem_cons_of_mem _ hm), List.reverse_cons, List.append_assoc]
      rfl
  simp only [sortMembers, if_true, htag]
  rw [hrest, List.append_nil]

theorem read_written (room : Nat) (tag : Tag) (members : List (Option String × Json.Draft))
    (h : ∀ m ∈ members, ∃ key, m.1 = some key ∧ key ≠ "type" ∧ m.2.keepable room = true) :
    (form room).read (.object ((some "type", .string (Enumeration.name tag)) :: members) true) =
      ofKept (.object members true) tag := by
  simp only [form, sortMembers_written room tag h, List.reverse_reverse]

/-- **An item of a route is read back**, however deep it stands. -/
theorem lawful_form (room : Nat) : (form room).Lawful := by
  intro item
  cases item with
  | accessory id output =>
    have hread := read_written room .accessory
      [(some "id", ((Ident.form .accessory).write id).draft), (some "state", .string output.name)]
    have hkept : accessoryForm.read (.object [(some "id", ((Ident.form .accessory).write id).draft),
        (some "state", .string output.name)] true) = .ok (id, output) :=
      lawful_accessoryForm (id, output)
    refine (hread fun m hm => ?_).trans ?_
    · rcases List.mem_cons.1 hm with rfl | hm
      · exact ⟨_, rfl, by decide, keepable_id id room⟩
      · rw [List.mem_singleton.1 hm]
        exact ⟨_, rfl, by decide, by cases room <;> rfl⟩
    · simp only [ofKept, hkept]
  | segment id =>
    have hread := read_written room .segment
      [(some "id", ((Ident.form .segment).write id).draft)]
    have hkept : segmentForm.read
        (.object [(some "id", ((Ident.form .segment).write id).draft)] true) = .ok id :=
      lawful_segmentForm id
    refine (hread fun m hm => ?_).trans ?_
    · rw [List.mem_singleton.1 hm]
      exact ⟨_, rfl, by decide, keepable_id id room⟩
    · simp only [ofKept, hkept]

end PathItem

theorem SpeedSensors.lawful_form : SpeedSensors.form.Lawful := by
  have hsensor := (Ident.lawful_form .sensor).option (Ident.neverNull_form .sensor)
  refine .record ?_ (by decide) fun _ => rfl
  exact .shown hsensor rfl <| .shown hsensor rfl <|
    .shown hsensor rfl <| .shown hsensor rfl .done

theorem RouteConfig.lawful_form : RouteConfig.form.Lawful := by
  refine .record ?_ (by decide) fun _ => rfl
  exact .shown (Ident.lawful_form .route) rfl <|
    .shown Form.lawful_text rfl <|
    .shown (Form.lawful_word UInt8) rfl <|
    .shown (Ident.lawful_form .segment) rfl <|
    .shown (Form.lawful_vocabulary Orientation) rfl <|
    .shown (Ident.lawful_form .segment) rfl <|
    .shown (Form.lawful_vocabulary Orientation) rfl <|
    .shown (PathItem.lawful_form _).list rfl <|
    .shown SpeedSensors.lawful_form rfl <|
    .shown (Form.lawful_word UInt16) rfl <|
    .shown (Form.lawful_word UInt16) rfl <|
    .shown (Form.lawful_vocabulary TrainFilter) rfl .done

/-! ## What observers are told -/

/-- A holder that is not written is no holder. -/
theorem Json.absent_of_hidden {α : Type} (a : Option α) (h : a.isNone = true) : some none = some a := by
  rw [Option.isNone_iff_eq_none.1 h]

theorem Lock.ofParts?_parts (k : Lock) : Lock.ofParts? (k.stage, k.holder?) = some k := by
  cases k <;> rfl

theorem Lock.lawful_form : Lock.form.Lawful := by
  have hloco := (Ident.lawful_form .loco).option (Ident.neverNull_form .loco)
  refine .refine (.record ?_ (by decide) fun _ => rfl) Lock.ofParts?_parts
  exact .shown (Form.lawful_vocabulary LockStage) rfl <|
    .field hloco Json.absent_of_hidden .done

theorem Snapshot.lawful_form : Snapshot.form.Lawful := by
  have hloco := (Ident.lawful_form .loco).option (Ident.neverNull_form .loco)
  refine .record ?_ (by decide) fun _ => rfl
  exact .shown (Ident.lawful_form .segment) rfl <|
    .shown Form.lawful_text rfl <|
    .shown Lock.lawful_form rfl <|
    .shown (Form.lawful_vocabulary Occupancy) rfl <|
    .shown (Form.lawful_vocabulary Occupancy) rfl <|
    .shown Form.lawful_flag rfl <|
    .field hloco Json.absent_of_hidden <|
    .shown Form.lawful_flag rfl <|
    .shown (Form.lawful_vocabulary Orientation) rfl .done

/-! ## Requests and answers -/

namespace Web

theorem LocoRequest.lawful_form : LocoRequest.form.Lawful := by
  refine .record ?_ (by decide) fun _ => rfl
  exact .shown (Ident.lawful_form .loco) rfl <|
    .shown Form.lawful_flag rfl .done

theorem BlockedRequest.lawful_form : BlockedRequest.form.Lawful := by
  refine .record ?_ (by decide) fun _ => rfl
  exact .shown Form.lawful_flag rfl .done

theorem ReportRequest.lawful_form : ReportRequest.form.Lawful := by
  refine .record ?_ (by decide) fun _ => rfl
  exact .shown (Form.lawful_vocabulary Occupancy) rfl .done

theorem RouteQuery.lawful_form : RouteQuery.form.Lawful := by
  have hturn := Form.lawful_flag.option Form.neverNull_flag
  refine .record ?_ (by decide) fun _ => rfl
  exact .shown (Ident.lawful_form .loco) rfl <|
    .shown hturn rfl <|
    .shown (Form.lawful_vocabulary Approach) rfl .done

theorem CommandResult.lawful_form : CommandResult.form.Lawful := by
  refine .record ?_ (by decide) fun _ => rfl
  exact .shown Form.lawful_flag rfl <|
    .shown Form.lawful_text rfl .done

theorem RoutesResult.lawful_form : RoutesResult.form.Lawful := by
  refine .record ?_ (by decide) fun _ => rfl
  exact .shown (Ident.lawful_form .segment) rfl <|
    .shown (Form.lawful_vocabulary Approach) rfl <|
    .shown (Ident.lawful_form .route).list rfl .done

/-- An answer is read back if its data are, and if no data can be told from data. -/
theorem Answer.lawful_form {α : Type} {f : Form α} (h : f.Lawful) (hnull : f.NeverNull) :
    (Answer.form f).Lawful := by
  refine .record ?_ (by simp [Json.Schema.names]) fun _ => rfl
  exact .shown Form.lawful_flag rfl <|
    .field (h.option hnull) Json.absent_of_hidden <|
    .field (Form.lawful_text.option Form.neverNull_text) Json.absent_of_hidden .done

end Web

/-! ## Settings -/

theorem LayoutSettings.lawful_form : LayoutSettings.form.Lawful := by
  have hseed := (Form.lawful_word UInt64).option (Form.neverNull_word UInt64)
  refine .record ?_ (by decide) fun _ => rfl
  exact .shown (Form.lawful_vocabulary Approach) rfl <|
    .shown hseed rfl .done

theorem WebSettings.lawful_form : WebSettings.form.Lawful := by
  refine .record ?_ (by decide) fun _ => rfl
  exact .shown (Form.lawful_word UInt16) rfl <|
    .shown Form.lawful_flag rfl <|
    .shown Form.lawful_flag rfl .done

theorem BrokerSettings.lawful_form : BrokerSettings.form.Lawful := by
  refine .record ?_ (by decide) fun _ => rfl
  exact .shown (Form.lawful_bounded 64) rfl <|
    .shown (Form.lawful_word UInt16) rfl <|
    .shown (Form.lawful_bounded 64) rfl <|
    .shown (Form.lawful_bounded 64) rfl <|
    .shown (Form.lawful_bounded 64) rfl <|
    .shown (Form.lawful_bounded 64) rfl <|
    .shown (Form.lawful_word UInt32) rfl <|
    .shown (Form.lawful_word UInt16) rfl <|
    .shown Form.lawful_flag rfl .done

theorem StorageSettings.lawful_form : StorageSettings.form.Lawful := by
  refine .record ?_ (by decide) fun _ => rfl
  exact .shown (Form.lawful_bounded 128) rfl <|
    .shown Form.lawful_flag rfl .done

theorem Settings.lawful_form : Settings.form.Lawful := by
  refine .record ?_ (by decide) fun _ => rfl
  exact .shown LayoutSettings.lawful_form rfl <|
    .shown WebSettings.lawful_form rfl <|
    .shown BrokerSettings.lawful_form rfl <|
    .shown StorageSettings.lawful_form rfl .done

/-- No settings are too long to be read: what is in them has a bounded size already. -/
theorem Settings.ofText_encode (s : Settings) : Settings.ofText (Settings.form.encode s) = .ok s := by
  rw [Settings.ofText, Settings.lawful_form.decode_encode s]

/-! ## Texts -/

/-- The text that is written for a value is read, and as that value. -/
def Json.Form.RoundTrips {α : Type} (f : Form α) : Prop := ∀ a, f.decode (f.encode a) = .ok a

/-- **The formats round-trip.** The text that is written for any object, status, request
or answer is read back as what it was written for, whatever the names, numbers and lists
in it are. So is the text of settings, and of those in particular that any changes have
led to: a text that was too long has been cut, so it is not refused. -/
theorem wire_formats_round_trip :
    SegmentConfig.form.RoundTrips ∧ RouteConfig.form.RoundTrips ∧
      PathItem.aloneForm.RoundTrips ∧ AccessoryConfig.form.RoundTrips ∧
      SensorConfig.form.RoundTrips ∧ Loco.form.RoundTrips ∧ Lock.form.RoundTrips ∧
      Snapshot.form.RoundTrips ∧ Web.LocoRequest.form.RoundTrips ∧
      Web.BlockedRequest.form.RoundTrips ∧ Web.ReportRequest.form.RoundTrips ∧
      Web.RouteQuery.form.RoundTrips ∧ Web.CommandResult.form.RoundTrips ∧
      Web.RoutesResult.form.RoundTrips ∧ (Web.Answer.form (Form.word UInt32)).RoundTrips ∧
      (∀ s : Settings, Settings.ofText (Settings.form.encode s) = .ok s) ∧
      ∀ changes : List Settings.Change,
        Settings.ofText (Settings.form.encode (.ofChanges changes)) = .ok (.ofChanges changes) := by
  have hanswer : (Web.Answer.form (Form.word UInt32)).Lawful :=
    Web.Answer.lawful_form (Form.lawful_word UInt32) (Form.neverNull_word UInt32)
  exact ⟨SegmentConfig.lawful_form.decode_encode, RouteConfig.lawful_form.decode_encode,
    (PathItem.lawful_form _).decode_encode, AccessoryConfig.lawful_form.decode_encode,
    SensorConfig.lawful_form.decode_encode, Loco.lawful_form.decode_encode,
    Lock.lawful_form.decode_encode, Snapshot.lawful_form.decode_encode,
    Web.LocoRequest.lawful_form.decode_encode, Web.BlockedRequest.lawful_form.decode_encode,
    Web.ReportRequest.lawful_form.decode_encode, Web.RouteQuery.lawful_form.decode_encode,
    Web.CommandResult.lawful_form.decode_encode, Web.RoutesResult.lawful_form.decode_encode,
    hanswer.decode_encode, Settings.ofText_encode, fun changes => Settings.ofText_encode _⟩

end Interlocking
