/-
Cutting a text at a separator.

Lists in a stored field are joined by one character and cut at the same
character again. Both directions are total list functions, and cutting inverts
joining as long as no piece holds the separator: `split_join` is the reason a
list written to a store is read back.
-/

set_option autoImplicit false

namespace Interlocking.Text

/-- The pieces of a list of characters between occurrences of `sep`. There is
always at least one piece, and two separators in a row have an empty piece
between them. -/
def split (sep : Char) : List Char → List (List Char)
  | [] => [[]]
  | c :: cs =>
    if c = sep then [] :: split sep cs
    else
      match split sep cs with
      | [] => [[c]]
      | piece :: pieces => (c :: piece) :: pieces

/-- The pieces one after another with `sep` between neighbours. -/
def join (sep : Char) : List (List Char) → List Char
  | [] => []
  | [piece] => piece
  | piece :: next :: rest => piece ++ sep :: join sep (next :: rest)

/-- What stands before the first `sep` and what stands after it; nothing if
`sep` does not occur. -/
def splitOnce (sep : Char) : List Char → Option (List Char × List Char)
  | [] => none
  | c :: cs =>
    if c = sep then some ([], cs)
    else (splitOnce sep cs).map fun parts => (c :: parts.1, parts.2)

/-! ## Cutting inverts joining -/

/-- A piece without the separator is not cut. -/
theorem split_of_notMem {sep : Char} {piece : List Char} (h : sep ∉ piece) :
    split sep piece = [piece] := by
  induction piece with
  | nil => rfl
  | cons c cs ih =>
    have hc : c ≠ sep := fun e => h (e ▸ List.mem_cons_self)
    have hcs : sep ∉ cs := fun m => h (List.mem_cons_of_mem _ m)
    rw [split, if_neg hc, ih hcs]

/-- A piece without the separator ends where the separator stands. -/
theorem split_append_sep {sep : Char} {piece : List Char} (h : sep ∉ piece)
    (rest : List Char) : split sep (piece ++ sep :: rest) = piece :: split sep rest := by
  induction piece with
  | nil => simp [split]
  | cons c cs ih =>
    have hc : c ≠ sep := fun e => h (e ▸ List.mem_cons_self)
    have hcs : sep ∉ cs := fun m => h (List.mem_cons_of_mem _ m)
    rw [List.cons_append, split, if_neg hc, ih hcs]

/-- Cutting at `sep` gives back the pieces that were joined with it, when
there is at least one and none of them holds the separator. -/
theorem split_join {sep : Char} {pieces : List (List Char)} (hne : pieces ≠ [])
    (h : ∀ piece ∈ pieces, sep ∉ piece) : split sep (join sep pieces) = pieces := by
  induction pieces with
  | nil => exact absurd rfl hne
  | cons piece rest ih =>
    cases rest with
    | nil => simpa [join] using split_of_notMem (h piece (by simp))
    | cons next rest =>
      rw [join, split_append_sep (h piece (by simp)),
        ih (by simp) fun p hp => h p (List.mem_cons_of_mem _ hp)]

end Interlocking.Text
