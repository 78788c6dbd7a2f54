/-
Histories: what happened to a layout, step by step.

`Reachable` says which layouts there are. Some of what a layout promises can be lost,
and then it matters by which step. A history tells the steps: the calls, what was
loaded, and what happened elsewhere. Every layout that operations lead to has one
(`reachable_iff_follow`).

A promise that holds at the start is kept throughout a history exactly if no step
breaks it. So if it is known of a single step when it keeps the promise, then it is
known of the whole history (`throughout_and_each_iff`).
-/
import Interlocking.Proofs.Layout.Reachable

set_option autoImplicit false

namespace Interlocking.Layout

variable {L M : Layout}

/-! ## Steps -/

/-- Something that happens to a layout. -/
inductive Step : Type 1 where
  | call (c : Call)
  | load {σ : Type} [Store σ] (s : σ)
  /-- The command station has changed, or notices were collected. -/
  | elsewhere (station : CommandStation) (notices : List Snapshot)

/-- The layout after a step. -/
def step (L : Layout) : Step → Layout
  | .call c => (L.call c).2
  | @Step.load _ _ s => (L.load s).2
  | .elsewhere station notices => { L with station := station, notices := notices }

/-- The layout after a list of steps. -/
def follow (L : Layout) (steps : List Step) : Layout := steps.foldl step L

theorem follow_concat (L : Layout) (steps : List Step) (next : Step) :
    L.follow (steps ++ [next]) = (L.follow steps).step next := by
  rw [follow, List.foldl_append]
  rfl

theorem Reachable.step (hL : L.Reachable) (next : Step) : (L.step next).Reachable := by
  cases next with
  | call c => exact hL.call c
  | load s => exact hL.load s
  | elsewhere station notices => exact hL.elsewhere station notices

theorem Reachable.follow (hL : L.Reachable) (steps : List Step) : (L.follow steps).Reachable :=
  List.foldlRecOn steps _ hL fun _ h next _ => h.step next

/-- **The layouts that operations lead to** are those at the end of a history. -/
theorem reachable_iff_follow : L.Reachable ↔ ∃ approach station steps,
    L = follow { defaultApproach := approach, station := station } steps := by
  constructor
  · intro hL
    -- One more step is put at the end.
    have hnext : ∀ {approach station} {steps : List Step} (next : Step), ∃ approach' station' steps',
        (follow { defaultApproach := approach, station := station } steps).step next =
          follow { defaultApproach := approach', station := station' } steps' :=
      fun next => ⟨_, _, _, (follow_concat _ _ next).symm⟩
    induction hL with
    | start approach station => exact ⟨approach, station, [], rfl⟩
    | call _ c ih =>
      obtain ⟨_, _, _, rfl⟩ := ih
      exact hnext (.call c)
    | load _ s ih =>
      obtain ⟨_, _, _, rfl⟩ := ih
      exact hnext (.load s)
    | elsewhere _ station notices ih =>
      obtain ⟨_, _, _, rfl⟩ := ih
      exact hnext (.elsewhere station notices)
  · rintro ⟨approach, station, steps, rfl⟩
    exact (Reachable.start approach station).follow steps

/-! ## What holds along a history -/

/-- `P` holds of every layout of the history, the first and the last included. -/
def Throughout (P : Layout → Prop) (L : Layout) (steps : List Step) : Prop :=
  ∀ before after, steps = before ++ after → P (L.follow before)

/-- `Q` holds of every step of the history, in the layout in which it happens. -/
def Each (Q : Layout → Step → Prop) (L : Layout) (steps : List Step) : Prop :=
  ∀ before next after, steps = before ++ next :: after → Q (L.follow before) next

/-- `Q` holds of the step at a position of the history, in the layout in which it
happens. -/
def At (Q : Layout → Step → Prop) (L : Layout) (steps : List Step) (n : Nat) : Prop :=
  ∃ next, steps[n]? = some next ∧ Q (L.follow (steps.take n)) next

section Positions

variable {Q : Layout → Step → Prop} {steps : List Step} {next : Step} {n : Nat}

theorem At.lt (h : L.At Q steps n) : n < steps.length := by
  obtain ⟨next, hnext, -⟩ := h
  exact (List.getElem?_eq_some_iff.1 hnext).1

/-- One more step happens at one more position. -/
theorem at_concat : L.At Q (steps ++ [next]) n ↔
    L.At Q steps n ∨ n = steps.length ∧ Q (L.follow steps) next := by
  rcases Nat.lt_trichotomy n steps.length with hlt | rfl | hgt
  · have hbefore : (steps ++ [next]).take n = steps.take n :=
      List.take_append_of_le_length (Nat.le_of_lt hlt)
    rw [At, At, List.getElem?_append_left hlt, hbefore]
    exact ⟨.inl, fun h => h.resolve_right fun hn => absurd hn.1 (Nat.ne_of_lt hlt)⟩
  · rw [At, List.getElem?_concat_length, List.take_left]
    constructor
    · rintro ⟨_, ⟨⟩, hQ⟩
      exact .inr ⟨rfl, hQ⟩
    · rintro (hold | ⟨-, hQ⟩)
      · exact absurd hold.lt (Nat.lt_irrefl _)
      · exact ⟨next, rfl, hQ⟩
  · constructor
    · intro h
      have hlt := h.lt
      rw [List.length_append, List.length_singleton] at hlt
      omega
    · rintro (hold | ⟨rfl, -⟩)
      · exact absurd hold.lt (Nat.lt_asymm hgt)
      · exact absurd hgt (Nat.lt_irrefl _)

theorem at_concat_of_not (hnot : ¬ Q (L.follow steps) next) :
    L.At Q (steps ++ [next]) n ↔ L.At Q steps n := by
  rw [at_concat]
  exact or_iff_left fun h => hnot h.2

theorem at_concat_last (hQ : Q (L.follow steps) next) : L.At Q (steps ++ [next]) steps.length :=
  at_concat.2 (.inr ⟨rfl, hQ⟩)

/-- Nothing happens after the last step. -/
theorem not_at_concat_of_lt (hn : steps.length < n) : ¬ L.At Q (steps ++ [next]) n := by
  intro h
  have hlt := h.lt
  rw [List.length_append, List.length_singleton] at hlt
  omega

/-- `Q` has happened at some time, and `R` has not happened after that. -/
def Since (Q R : Layout → Step → Prop) (L : Layout) (steps : List Step) : Prop :=
  ∃ n, L.At Q steps n ∧ ∀ m, n < m → ¬ L.At R steps m

/-- `Q` happens now, or it has happened before and `R` does not happen now either. -/
theorem since_concat_iff {R : Layout → Step → Prop} : Since Q R L (steps ++ [next]) ↔
    Q (L.follow steps) next ∨ Since Q R L steps ∧ ¬ R (L.follow steps) next := by
  constructor
  · rintro ⟨n, hn, hlater⟩
    rcases at_concat.1 hn with hn | ⟨-, hQ⟩
    · refine .inr ⟨⟨n, hn, fun m hm hR => hlater m hm (at_concat.2 (.inl hR))⟩, fun hR => ?_⟩
      exact hlater _ hn.lt (at_concat_last hR)
    · exact .inl hQ
  · rintro (hQ | ⟨⟨n, hn, hlater⟩, hR⟩)
    · exact ⟨_, at_concat_last hQ, fun m hm => not_at_concat_of_lt hm⟩
    · refine ⟨n, at_concat.2 (.inl hn), fun m hm => ?_⟩
      rw [at_concat_of_not hR]
      exact hlater m hm

end Positions

/-- **What a history keeps.** If a step that finds `P` keeps it and does what `R` says
exactly under the condition `Q`, then the same is true of a whole history that begins
with `P`. -/
theorem throughout_and_each_iff {P : Layout → Prop} {Q R : Layout → Step → Prop}
    (hL : L.Reachable) (hstart : P L)
    (hstep : ∀ M, M.Reachable → P M → ∀ next, P (M.step next) ∧ R M next ↔ Q M next)
    (steps : List Step) :
    L.Throughout P steps ∧ L.Each R steps ↔ L.Each Q steps := by
  constructor
  · rintro ⟨hP, hR⟩ before next after hsplit
    have hnow : P (L.follow before) := hP before (next :: after) hsplit
    have hthen : P ((L.follow before).step next) := by
      rw [← follow_concat]
      exact hP (before ++ [next]) after (by rw [hsplit]; simp)
    exact (hstep _ (hL.follow before) hnow next).1 ⟨hthen, hR before next after hsplit⟩
  · intro hQ
    have hP : L.Throughout P steps := by
      intro before
      -- Steps are taken off the end, because `Q` is about the layout before each step.
      induction before using List.reverseRecOn with
      | nil => exact fun _ _ => hstart
      | append_singleton before next ih =>
        intro after hsplit
        have hsplit' : steps = before ++ next :: after := by rw [hsplit]; simp
        rw [follow_concat]
        exact ((hstep _ (hL.follow before) (ih _ hsplit') next).2 (hQ _ _ _ hsplit')).1
    refine ⟨hP, fun before next after hsplit => ?_⟩
    have hnow : P (L.follow before) := hP before (next :: after) hsplit
    exact ((hstep _ (hL.follow before) hnow next).2 (hQ _ _ _ hsplit)).2

/-- The same if nothing but `P` is asked for. -/
theorem throughout_iff {P : Layout → Prop} {Q : Layout → Step → Prop} (hL : L.Reachable)
    (hstart : P L) (hstep : ∀ M, M.Reachable → P M → ∀ next, P (M.step next) ↔ Q M next)
    (steps : List Step) : L.Throughout P steps ↔ L.Each Q steps := by
  have hiff := throughout_and_each_iff (R := fun _ _ => True) hL hstart
    (fun M hM hP next => (and_iff_left trivial).trans (hstep M hM hP next)) steps
  exact ⟨fun h => hiff.1 ⟨h, fun _ _ _ _ => trivial⟩, fun h => (hiff.2 h).1⟩

end Interlocking.Layout
