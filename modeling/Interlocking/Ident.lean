/-
Ids of layout objects.

There are five kinds of object and each kind counts its own ids, so an id is a
number together with its kind. Keeping the kind in the type means that a
segment's id cannot be looked up among the routes. Where ids of all kinds meet,
in a store, the pair of kind and number is a value: an `EntityKey`, written
`kind/number`.

Reading a key is more liberal than writing one, because the number is read
like every other number: `track/01` and `track/+1` name the segment that is
written `track/1`.
-/
import Interlocking.Enumeration
import Interlocking.Text.Decimal
import Interlocking.Text.Split

set_option autoImplicit false

namespace Interlocking

/-! ## Kinds -/

/-- The kinds of objects, in the order in which they depend on each other:
each kind refers to earlier kinds only. -/
inductive Kind where
  | sensor
  | accessory
  | loco
  | segment
  | route
  deriving DecidableEq, Repr

/-- The names of the kinds, as they stand in the keys of a store. -/
def Kind.name : Kind → String
  | .sensor => "feedback"
  | .accessory => "accessory"
  | .loco => "loco"
  | .segment => "track"
  | .route => "route"

instance : Enumeration Kind where
  all := [.sensor, .accessory, .loco, .segment, .route]
  name := Kind.name
  mem_all a := by cases a <;> decide
  name_inj a b := by cases a <;> cases b <;> decide

/-- The letter that stands before the number when an id is shown. -/
def Kind.letter : Kind → Char
  | .sensor => 'F'
  | .accessory => 'A'
  | .loco => 'L'
  | .segment => 'T'
  | .route => 'R'

/-! ## Ids -/

/-- An id of an object of kind `k`. -/
structure Ident (k : Kind) where
  /-- The number, unique among the objects of the kind. -/
  number : UInt32
  deriving DecidableEq, Repr

abbrev SensorId := Ident .sensor
abbrev AccessoryId := Ident .accessory
abbrev LocoId := Ident .loco
abbrev SegmentId := Ident .segment
abbrev RouteId := Ident .route

/-- An id as it is shown to people: the kind's letter and the number. -/
def Ident.text {k : Kind} (i : Ident k) : String :=
  String.ofList (k.letter :: Decimal.chars i.number.toNat)

instance {k : Kind} : Ord (Ident k) where
  compare i j := compare i.number j.number

instance {k : Kind} : Std.TransOrd (Ident k) where
  eq_swap {i j} := Std.OrientedOrd.eq_swap (a := i.number) (b := j.number)
  isLE_trans {i j l} := Std.TransOrd.isLE_trans (a := i.number) (b := j.number) (c := l.number)

instance {k : Kind} : Std.LawfulEqOrd (Ident k) where
  compare_self {i} := @Std.ReflCmp.compare_self UInt32 compare _ i.number
  eq_of_compare {i j} h := by
    have := @Std.LawfulEqCmp.eq_of_compare UInt32 compare _ i.number j.number h
    cases i; cases j; cases this; rfl

/-! ## Keys -/

/-- The key of an object in a store. -/
structure EntityKey where
  /-- The kind of the object. -/
  kind : Kind
  /-- The number of its id. -/
  number : UInt32
  deriving DecidableEq, Repr

/-- The key of an id. -/
def Ident.key {k : Kind} (i : Ident k) : EntityKey := ⟨k, i.number⟩

namespace EntityKey

/-- The written form of a key: kind, slash, number. -/
def text (k : EntityKey) : String :=
  String.ofList (k.kind.name.toList ++ '/' :: Decimal.chars k.number.toNat)

/-- Reads a key: the kind's exact name before the first slash, after it any
spelling of a number in range. -/
def parse? (s : String) : Option EntityKey := do
  let (kind, number) ← Text.splitOnce '/' s.toList
  return {
    kind := ← Enumeration.ofName? (String.ofList kind)
    number := ← Decimal.word? (String.ofList number) }

/-- The place of a key in the order of keys: kinds one after another, within
a kind by number. -/
def rank (k : EntityKey) : Nat :=
  (Enumeration.all : List Kind).idxOf k.kind * 4294967296 + k.number.toNat

theorem rank_inj {k l : EntityKey} (h : k.rank = l.rank) : k = l := by
  obtain ⟨k, n⟩ := k
  obtain ⟨l, m⟩ := l
  have hn := n.toNat_lt
  have hm := m.toNat_lt
  have hkl : (Enumeration.all : List Kind).idxOf k = (Enumeration.all : List Kind).idxOf l := by
    simp only [rank] at h; omega
  have hnm : n.toNat = m.toNat := by simp only [rank, hkl] at h; omega
  have hkind : k = l := by
    revert hkl; cases k <;> cases l <;> decide
  rw [hkind, UInt32.toNat_inj.1 hnm]

end EntityKey

instance : Ord EntityKey where
  compare k l := compare k.rank l.rank

instance : Std.TransOrd EntityKey where
  eq_swap {k l} := Std.OrientedOrd.eq_swap (a := k.rank) (b := l.rank)
  isLE_trans {k l m} := Std.TransOrd.isLE_trans (a := k.rank) (b := l.rank) (c := m.rank)

instance : Std.LawfulEqOrd EntityKey where
  compare_self {k} := @Std.ReflCmp.compare_self Nat compare _ k.rank
  eq_of_compare {k l} h :=
    EntityKey.rank_inj (@Std.LawfulEqCmp.eq_of_compare Nat compare _ k.rank l.rank h)

end Interlocking
