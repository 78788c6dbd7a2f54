/-
Texts of bounded size.

A configuration is kept in fields of fixed capacity, counted in bytes of
UTF-8. A text that is too long is either refused (a configuration file) or cut
(a setter): the cut keeps the part in front of the last place within the
capacity at which a character ends. Both ways end in the same type, which
carries the bound, so that no later step has to ask again.
-/

set_option autoImplicit false

namespace Interlocking

/-! ## Places in a text -/

/-- The size of a list of characters in bytes of UTF-8. -/
def byteSize (cs : List Char) : Nat :=
  cs.foldr (fun c n => c.utf8Size + n) 0

theorem byteSize_cons (c : Char) (cs : List Char) :
    byteSize (c :: cs) = c.utf8Size + byteSize cs := rfl

theorem byteSize_toList (s : String) : byteSize s.toList = s.utf8ByteSize := by
  suffices h : ∀ cs, byteSize cs = (String.ofList cs).utf8ByteSize by
    rw [h, String.ofList_toList]
  intro cs
  induction cs with
  | nil => rw [String.ofList_nil, String.utf8ByteSize_empty]; rfl
  | cons c cs ih =>
    rw [byteSize_cons, ih, String.ofList_cons, String.utf8ByteSize_append,
      String.utf8ByteSize_singleton]

/-- The places at which the characters end, in bytes, if the first of them begins at
`start`. -/
def charEnds (start : Nat) : List Char → List Nat
  | [] => []
  | c :: cs => (start + c.utf8Size) :: charEnds (start + c.utf8Size) cs

/-- The last place within `limit` at which a character ends, if the first of them begins
at `start`. That is `start` if the first character is too long already. -/
def lastEnd (start limit : Nat) (cs : List Char) : Nat :=
  ((charEnds start cs).takeWhile fun place => decide (place ≤ limit)).getLastD start

/-- The characters in front of a place; nothing if the place is within a character or
behind the end. -/
def inFrontOf? : Nat → List Char → Option (List Char)
  | 0, _ => some []
  | _ + 1, [] => none
  | n + 1, c :: cs =>
    if c.utf8Size ≤ n + 1 then (inFrontOf? (n + 1 - c.utf8Size) cs).map (c :: ·) else none

/-- The part of a text in front of the last place within `capacity` at which a character
ends. -/
def frontWithin? (capacity : Nat) (s : String) : Option String :=
  (inFrontOf? (lastEnd 0 capacity s.toList) s.toList).map String.ofList

/-! ## Buffers -/

/-- A buffer for texts of at most `capacity` bytes: a text is appended if there is room
for all of it, and refused otherwise. -/
structure TextBuffer (capacity : Nat) where
  /-- What a buffer can hold. -/
  State : Type
  empty : State
  text : State → String
  append? : State → String → Option State
  text_empty : text empty = ""
  append?_of_le : ∀ b s, (text b).utf8ByteSize + s.utf8ByteSize ≤ capacity →
    ∃ b', append? b s = some b' ∧ text b' = text b ++ s
  append?_of_lt : ∀ b s, capacity < (text b).utf8ByteSize + s.utf8ByteSize →
    append? b s = none

/-- Fills an empty buffer with what fits of a text; the buffer stays empty if it refuses
that. -/
def TextBuffer.keep {capacity : Nat} (B : TextBuffer capacity) (s : String) : B.State :=
  ((frontWithin? capacity s).bind (B.append? B.empty)).getD B.empty

/-! ## The type -/

/-- A text of at most `capacity` bytes. -/
structure BoundedText (capacity : Nat) where
  /-- The text itself. -/
  text : String
  fits : byteSize text.toList ≤ capacity
  deriving DecidableEq

namespace BoundedText

variable {capacity : Nat}

/-- A text that fits as it is; nothing if it is too long. -/
def ofText? (s : String) : Option (BoundedText capacity) :=
  if h : byteSize s.toList ≤ capacity then some ⟨s, h⟩ else none

/-- A bounded text read again is accepted. -/
theorem ofText?_text (b : BoundedText capacity) : ofText? b.text = some b := by
  rw [ofText?, dif_pos b.fits]

/-- Bounded texts as a buffer. -/
def buffer : TextBuffer capacity where
  State := BoundedText capacity
  empty := ⟨"", Nat.zero_le capacity⟩
  text := BoundedText.text
  append? b s := ofText? (b.text ++ s)
  text_empty := rfl
  append?_of_le b s h := by
    have hfits : byteSize (b.text ++ s).toList ≤ capacity := by
      rwa [byteSize_toList, String.utf8ByteSize_append]
    exact ⟨⟨b.text ++ s, hfits⟩, dif_pos hfits, rfl⟩
  append?_of_lt b s h := by
    refine dif_neg ?_
    rw [byteSize_toList, String.utf8ByteSize_append]
    omega

/-- Keeps of a text what fits. -/
def cut (s : String) : BoundedText capacity := buffer.keep s

end BoundedText

/-- The short fields of a configuration: names, hosts and passwords. -/
abbrev ShortText := BoundedText 64

/-- The long fields of a configuration: file paths. -/
abbrev LongText := BoundedText 128

end Interlocking
