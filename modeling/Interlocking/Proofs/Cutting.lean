/-
What is kept of a text that is too long.

The part that is kept is found through numbers: the places at which characters end, the
last of them within the capacity, and the bytes in front of that place. Two things could
go wrong on the way. The place could lie within a character, and the buffer could refuse
what is in front of it, which would leave nothing at all. Neither happens, because the
same part is found by going through the characters with the room that is left
(`inFrontOf?_lastEnd`), and of that it is plain what it is: the longest part from the
front that fits.

The other promises are consequences of this one (`IsLongestFitting`). A later character
may well be small enough for the room that is left; it is not taken, since the characters
in front of it do not fit.
-/
import Interlocking.Text.Bounded

set_option autoImplicit false

namespace Interlocking

variable {capacity start limit room n : Nat} {c : Char} {cs : List Char}
  {s part more rest : String}

/-! ## The last place -/

theorem lastEnd_cons : lastEnd start limit (c :: cs) =
    if start + c.utf8Size ≤ limit then lastEnd (start + c.utf8Size) limit cs else start := by
  unfold lastEnd
  rw [charEnds, List.takeWhile_cons]
  by_cases hc : start + c.utf8Size ≤ limit
  · rw [if_pos (decide_eq_true hc), if_pos hc, List.getLastD_cons]
  · rw [if_neg (by rwa [decide_eq_true_iff]), if_neg hc, List.getLastD_nil]

theorem le_lastEnd : start ≤ lastEnd start limit cs := by
  induction cs generalizing start with
  | nil => exact Nat.le_refl start
  | cons c cs ih =>
    rw [lastEnd_cons]
    split
    · exact Nat.le_trans (Nat.le_add_right start c.utf8Size) ih
    · exact Nat.le_refl start

theorem inFrontOf?_cons (h : c.utf8Size ≤ n) :
    inFrontOf? n (c :: cs) = (inFrontOf? (n - c.utf8Size) cs).map (c :: ·) := by
  have hpos : 0 < c.utf8Size := c.utf8Size_pos
  obtain ⟨k, rfl⟩ : ∃ k, n = k + 1 := ⟨n - 1, by omega⟩
  rw [inFrontOf?, if_pos h]

/-! ## Going through the characters -/

/-- The characters from the front that fit `room` bytes together: the first one that does
not fit ends the list, a later shorter one is not taken. -/
def longestFitting (room : Nat) : List Char → List Char
  | [] => []
  | c :: cs =>
    if c.utf8Size ≤ room then c :: longestFitting (room - c.utf8Size) cs else []

/-- **The last place** within the limit is the end of what fits. The induction moves the
beginning of the text to the end of its first character, and what is left of the limit
shrinks by as much. -/
theorem inFrontOf?_lastEnd (h : start ≤ limit) :
    inFrontOf? (lastEnd start limit cs - start) cs =
      some (longestFitting (limit - start) cs) := by
  induction cs generalizing start with
  | nil =>
    have hend : lastEnd start limit [] = start := rfl
    rw [hend, Nat.sub_self, inFrontOf?, longestFitting]
  | cons c cs ih =>
    rw [lastEnd_cons, longestFitting]
    by_cases hc : start + c.utf8Size ≤ limit
    · have hroom : c.utf8Size ≤ limit - start := by omega
      have hplace : start + c.utf8Size ≤ lastEnd (start + c.utf8Size) limit cs := le_lastEnd
      rw [if_pos hc, if_pos hroom, inFrontOf?_cons (by omega), Nat.sub_sub, Nat.sub_sub, ih hc]
      rfl
    · have hroom : ¬ c.utf8Size ≤ limit - start := by omega
      rw [if_neg hc, if_neg hroom, Nat.sub_self, inFrontOf?]

theorem longestFitting_prefix : longestFitting room cs <+: cs := by
  induction cs generalizing room with
  | nil => exact List.prefix_refl []
  | cons c cs ih =>
    rw [longestFitting]
    split
    · exact List.cons_prefix_cons.2 ⟨rfl, ih⟩
    · exact List.nil_prefix

theorem byteSize_longestFitting : byteSize (longestFitting room cs) ≤ room := by
  induction cs generalizing room with
  | nil => exact Nat.zero_le room
  | cons c cs ih =>
    rw [longestFitting]
    split
    next hc =>
      have hrest : byteSize (longestFitting (room - c.utf8Size) cs) ≤ room - c.utf8Size := ih
      rw [byteSize_cons]
      omega
    next => exact Nat.zero_le room

/-- Whatever fits from the front is part of it. -/
theorem prefix_longestFitting {front : List Char} (hfront : front <+: cs)
    (hfits : byteSize front ≤ room) : front <+: longestFitting room cs := by
  induction front generalizing room cs with
  | nil => exact List.nil_prefix
  | cons c front ih =>
    obtain ⟨rest, rfl⟩ := hfront
    rw [byteSize_cons] at hfits
    rw [List.cons_append, longestFitting, if_pos (by omega)]
    exact List.cons_prefix_cons.2 ⟨rfl, ih (List.prefix_append front rest) (by omega)⟩

/-! ## The longest part that fits -/

/-- The longest part from the front of a text that fits `capacity` bytes: any other part
from the front that fits is in turn a part of it from the front. -/
structure IsLongestFitting (capacity : Nat) (s part : String) : Prop where
  front : ∃ rest, s = part ++ rest
  fits : part.utf8ByteSize ≤ capacity
  longest : ∀ other rest, s = other ++ rest → other.utf8ByteSize ≤ capacity →
    ∃ more, part = other ++ more

theorem exists_append_iff : (∃ rest, s = part ++ rest) ↔ part.toList <+: s.toList := by
  constructor
  · rintro ⟨rest, rfl⟩
    rw [String.toList_append]
    exact List.prefix_append _ _
  · rintro ⟨rest, hrest⟩
    refine ⟨String.ofList rest, String.toList_inj.1 ?_⟩
    rw [String.toList_append, String.toList_ofList, hrest]

theorem isLongestFitting_ofList (capacity : Nat) (s : String) :
    IsLongestFitting capacity s (String.ofList (longestFitting capacity s.toList)) where
  front := by
    rw [exists_append_iff, String.toList_ofList]
    exact longestFitting_prefix
  fits := by
    rw [← byteSize_toList, String.toList_ofList]
    exact byteSize_longestFitting
  longest other rest hs hfits := by
    rw [exists_append_iff, String.toList_ofList]
    rw [← byteSize_toList] at hfits
    exact prefix_longestFitting (exists_append_iff.1 ⟨rest, hs⟩) hfits

theorem eq_empty_of_eq_append (h : s = s ++ more ++ rest) : more = "" := by
  have hsize := congrArg String.utf8ByteSize h
  rw [String.utf8ByteSize_append, String.utf8ByteSize_append] at hsize
  apply String.utf8ByteSize_eq_zero_iff.1
  omega

/-- A text that fits is kept as it is. -/
theorem IsLongestFitting.eq_of_fits (h : IsLongestFitting capacity s part)
    (hs : s.utf8ByteSize ≤ capacity) : part = s := by
  obtain ⟨rest, hrest⟩ := h.front
  obtain ⟨more, rfl⟩ := h.longest s "" String.append_empty.symm hs
  rw [eq_empty_of_eq_append hrest, String.append_empty]

/-- A longer part from the front does not fit. -/
theorem IsLongestFitting.lt_of_longer (h : IsLongestFitting capacity s part)
    (hs : s = part ++ more ++ rest) (hmore : more ≠ "") :
    capacity < part.utf8ByteSize + more.utf8ByteSize := by
  apply Nat.lt_of_not_le
  intro hfits
  rw [← String.utf8ByteSize_append] at hfits
  obtain ⟨beyond, hpart⟩ := h.longest (part ++ more) rest hs hfits
  exact hmore (eq_empty_of_eq_append hpart)

/-! ## Filling a buffer -/

namespace TextBuffer

/-- There is something in front of the last place, and an empty buffer takes it. -/
theorem keep_spec (B : TextBuffer capacity) (s : String) :
    ∃ part, frontWithin? capacity s = some part ∧ B.append? B.empty part = some (B.keep s) ∧
      B.text (B.keep s) = part ∧ IsLongestFitting capacity s part := by
  have hfront : frontWithin? capacity s =
      some (String.ofList (longestFitting capacity s.toList)) := by
    have hplace : inFrontOf? (lastEnd 0 capacity s.toList - 0) s.toList =
        some (longestFitting (capacity - 0) s.toList) := inFrontOf?_lastEnd (Nat.zero_le capacity)
    rw [Nat.sub_zero, Nat.sub_zero] at hplace
    rw [frontWithin?, hplace, Option.map_some]
  have hlongest := isLongestFitting_ofList capacity s
  have hroom : (B.text B.empty).utf8ByteSize +
      (String.ofList (longestFitting capacity s.toList)).utf8ByteSize ≤ capacity := by
    rw [B.text_empty, String.utf8ByteSize_empty, Nat.zero_add]
    exact hlongest.fits
  obtain ⟨b, hb, htext⟩ := B.append?_of_le B.empty _ hroom
  rw [B.text_empty, String.empty_append] at htext
  have hkeep : B.keep s = b := by
    rw [keep, hfront, Option.bind_some, hb, Option.getD_some]
  rw [hkeep]
  exact ⟨_, hfront, hb, htext, hlongest⟩

/-- **A bounded field keeps the longest part of a text that fits.** Whatever buffer the
field is made of and whatever the text is: the part in front of the last place is made of
whole characters, and the empty buffer takes it. What the buffer holds then is the longest
part from the front of the text that fits. So it is the whole text if that fits, the buffer
takes no more of what follows in the text, and keeping what was kept changes nothing. The
fields of a configuration are the case of `BoundedText.buffer`. -/
theorem keeps_longest_fitting (B : TextBuffer capacity) (s : String) :
    (∃ part, frontWithin? capacity s = some part ∧ B.append? B.empty part = some (B.keep s)) ∧
    IsLongestFitting capacity s (B.text (B.keep s)) ∧
    (s.utf8ByteSize ≤ capacity → B.text (B.keep s) = s) ∧
    (∀ more rest, s = B.text (B.keep s) ++ more ++ rest → more ≠ "" →
      B.append? (B.keep s) more = none) ∧
    B.text (B.keep (B.text (B.keep s))) = B.text (B.keep s) := by
  obtain ⟨part, hfront, happend, htext, hlongest⟩ := B.keep_spec s
  rw [htext]
  refine ⟨⟨part, hfront, happend⟩, hlongest, hlongest.eq_of_fits, fun more rest hs hmore => ?_, ?_⟩
  · apply B.append?_of_lt
    rw [htext]
    exact hlongest.lt_of_longer hs hmore
  · obtain ⟨again, -, -, hagain, hsame⟩ := B.keep_spec part
    rw [hagain]
    exact hsame.eq_of_fits hlongest.fits

/-- A field of five bytes, and a text whose third character takes four: the first two
characters are kept. The last one would fit in with them, but it comes too late. -/
theorem keeps_longest_fitting_before_wide_character :
    let B : TextBuffer 5 := BoundedText.buffer
    B.text (B.keep "ab🚂c") = "ab" ∧ IsLongestFitting 5 "ab🚂c" "ab" ∧
      B.append? (B.keep "ab🚂c") "🚂" = none ∧ B.text (B.keep "ab") = "ab" := by
  intro B
  have htext : B.text (B.keep "ab🚂c") = "ab" := by decide
  obtain ⟨-, hlongest, -, hfull, hagain⟩ := B.keeps_longest_fitting "ab🚂c"
  rw [htext] at hlongest hfull hagain
  exact ⟨htext, hlongest, hfull "🚂" "c" (by decide) (by decide), hagain⟩

end TextBuffer

end Interlocking
