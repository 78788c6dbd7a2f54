/-
The route that was locked last is the one that was used most recently.

A layout counts the uses of its routes and stamps a route that is locked with the
count. As long as no stamp is ahead of the count, the new stamp is greater than all
others (`StampsCounted`). Whether that lasts is told exactly, over a whole history
(`stamps_follow_counter_iff`): it is lost by two steps only (`FallsBehind`).

One is locking a route when the count is at the end of its range: the count wraps
around and the stamp says "never". The other is loading that breaks off. The stored
stamps are loaded with the routes, but the count is brought forward only after
everything was loaded, so an error leaves a layout with stamps that are ahead of the
count. Loading that succeeds never does harm, whatever is stored.
-/
import Interlocking.Proofs.Layout.RouteRegistry
import Interlocking.Store.Memory

set_option autoImplicit false

namespace Interlocking.Layout

variable {L M : Layout} {r : RouteId} {l : LocoId} {x : Route}

/-! ## Stamps and the count -/

/-- No stamp is ahead of the count of uses. -/
def StampsCounted (L : Layout) : Prop :=
  ∀ r x, L.routes.get? r = some x → x.lastUsed ≤ L.useCounter

/-- A route that this step locks is then the one that was used most recently: its
stamp says that it was used, and is greater than all other stamps. -/
def StampsLast (L : Layout) (next : Step) : Prop :=
  ∀ r l, next = .call (.lockRoute r l) → (L.lockRoute r l).1 = true →
    ∃ x, (L.lockRoute r l).2.routes.get? r = some x ∧ x.lastUsed ≠ 0 ∧
      ∀ r' x', r' ≠ r → (L.lockRoute r l).2.routes.get? r' = some x' → x'.lastUsed < x.lastUsed

/-- The steps after which the count is behind: it has wrapped around, or loading broke
off after it had added a route with a greater stamp. -/
inductive FallsBehind (L : Layout) : Step → Prop where
  | wraps {r : RouteId} {l : LocoId} (hlocked : (L.lockRoute r l).1 = true)
      (hcount : L.useCounter = 18446744073709551615) : FallsBehind L (.call (.lockRoute r l))
  | breaksOff {σ : Type} [Store σ] (s : σ) {e : StoreError} (herror : (L.load s).1 = .error e)
      {r : RouteId} {x : Route} (hnew : L.routes.get? r = none)
      (hr : (L.load s).2.routes.get? r = some x) (hahead : L.useCounter < x.lastUsed) :
      FallsBehind L (.load s)

theorem StampsCounted.of_same (h : L.StampsCounted) (hsame : L.SameRoutes M) :
    M.StampsCounted := by
  intro r x hr
  rw [hsame.routes] at hr
  rw [hsame.useCounter]
  exact h r x hr

/-! ## Locking a route -/

/-- What locking a route does to the stamps. -/
theorem stamp_lockRoute (hcalm : L.reaction = none) (hlocked : (L.lockRoute r l).1 = true) :
    ∃ x, L.routes.get? r = some x ∧
      (L.lockRoute r l).2.routes = L.routes.insert r { x with lastUsed := L.useCounter + 1 } ∧
      (L.lockRoute r l).2.useCounter = L.useCounter + 1 := by
  have hregisters := registers_lockRoute hcalm r l
  generalize L.lockRoute r l = result at hregisters hlocked
  obtain ⟨answer, M⟩ := result
  cases hregisters with
  | nothing hsame hidle =>
    obtain rfl : answer = true := hlocked
    cases hidle r l rfl
  | adds _ hc => cases hc
  | deletes hc => cases hc
  | uses _ hc hr hroutes hcount =>
    cases hc
    exact ⟨_, hr, hroutes, hcount⟩

theorem lockRoute_stamps (hcalm : L.reaction = none) (h : L.StampsCounted)
    (hlocked : (L.lockRoute r l).1 = true) (hcount : L.useCounter ≠ 18446744073709551615) :
    (L.lockRoute r l).2.StampsCounted ∧ L.StampsLast (.call (.lockRoute r l)) := by
  obtain ⟨x, hx, hroutes, hcounter⟩ := stamp_lockRoute hcalm hlocked
  have hnext : L.useCounter < L.useCounter + 1 := UInt64.lt_add_one hcount
  refine ⟨fun r' x' hr' => ?_, ?_⟩
  · -- The new stamp is the new count, and the others were not ahead of the old one.
    rw [hcounter]
    rw [hroutes, Registry.get?_insert] at hr'
    split at hr'
    · obtain rfl := Option.some.inj hr'
      exact UInt64.le_refl _
    · exact UInt64.le_trans (h r' x' hr') (UInt64.le_of_lt hnext)
  · rintro _ _ ⟨⟩ -
    refine ⟨_, by rw [hroutes, Registry.get?_insert_self], fun hzero => ?_, fun r' x' hne hr' => ?_⟩
    · -- Nothing is below zero.
      have hneg : L.useCounter < 0 := hzero ▸ hnext
      exact UInt64.not_lt_zero hneg
    · rw [hroutes, Registry.get?_insert_of_ne _ hne] at hr'
      exact UInt64.lt_of_le_of_lt (h r' x' hr') hnext

/-- The stamp after the last count is the one of a route that was never used. -/
theorem not_stampsLast_of_wraps (hcalm : L.reaction = none)
    (hlocked : (L.lockRoute r l).1 = true) (hcount : L.useCounter = 18446744073709551615) :
    ¬ L.StampsLast (.call (.lockRoute r l)) := by
  intro hlast
  obtain ⟨x, hr, hused, -⟩ := hlast r l rfl hlocked
  obtain ⟨y, -, hroutes, -⟩ := stamp_lockRoute hcalm hlocked
  rw [hroutes, Registry.get?_insert_self] at hr
  obtain rfl := Option.some.inj hr
  apply hused
  show L.useCounter + 1 = 0
  rw [hcount]
  rfl

theorem StampsCounted.call (h : L.StampsCounted) (hL : L.Sound) {c : Call}
    (hc : ∀ r l, c = .lockRoute r l → (L.lockRoute r l).1 = false) :
    (L.call c).2.StampsCounted := by
  have hregisters := registers_call hL c
  have hidle : ∀ r l, c = .lockRoute r l → (L.call c).1 = .accepted false := by
    rintro r l rfl
    exact congrArg Answer.accepted (hc r l rfl)
  generalize L.call c = result at hregisters hidle
  cases hregisters with
  | nothing hsame => exact h.of_same hsame
  | adds config _ hnew hroutes hcount =>
    intro r x hr
    rw [hcount]
    rw [hroutes, Registry.get?_insert] at hr
    split at hr
    · -- A new route was never used.
      obtain rfl := Option.some.inj hr
      exact UInt64.zero_le
    · exact h r x hr
  | deletes _ _ hroutes hcount =>
    intro r x hr
    rw [hcount]
    rw [hroutes, Registry.get?_erase] at hr
    split at hr
    · cases hr
    · exact h r x hr
  | uses l hlock =>
    -- No route was locked.
    cases hidle _ l hlock

/-! ## Loading -/

section Loading

variable {σ : Type} [Store σ] {s : σ}

/-- A layout in the course of loading: routes have come, and none of them has a stamp
that is greater than the greatest stamp that is stored. -/
structure Loaded (s : σ) (L M : Layout) : Prop where
  kept : ∀ r x, L.routes.get? r = some x → M.routes.get? r = some x
  stamped : ∀ r x, M.routes.get? r = some x → L.routes.get? r = none →
    x.lastUsed ≤ highestStamp s
  useCounter : M.useCounter = L.useCounter

theorem le_max_count (a b : UInt64) : a ≤ max a b ∧ b ≤ max a b := by
  have hmax : max a b = if a ≤ b then b else a := rfl
  rw [hmax]
  split
  next h => exact ⟨h, UInt64.le_refl b⟩
  next h => exact ⟨UInt64.le_refl a, UInt64.le_of_lt (UInt64.not_le.1 h)⟩

theorem le_foldl_max {n a : UInt64} {stamps : List UInt64} (h : n ≤ a ∨ n ∈ stamps) :
    n ≤ stamps.foldl max a := by
  induction stamps generalizing a with
  | nil => exact h.resolve_right List.not_mem_nil
  | cons b stamps ih =>
    rw [List.foldl_cons]
    apply ih
    rcases h with hle | hmem
    · exact .inl (UInt64.le_trans hle (le_max_count a b).1)
    · rcases List.mem_cons.1 hmem with rfl | hmem
      · exact .inl (le_max_count a n).2
      · exact .inr hmem

/-- The stamp of a route that loading finds is one of the stored stamps. -/
theorem Finds.le_highestStamp {key : EntityKey} {f : Fields} (h : Finds s .route key f)
    (hread : Route.ofFields ⟨key.number⟩ f = .ok x) : x.lastUsed ≤ highestStamp s := by
  obtain ⟨⟨keys, hkeys, hkey⟩, hload⟩ := h
  have hstamp : storedStamp s key = x.lastUsed := by
    simp only [storedStamp, hload, hread]
  simp only [highestStamp, hkeys]
  exact le_foldl_max (.inr (List.mem_map.2 ⟨key, hkey, hstamp⟩))

theorem Loaded.addStored (h : Loaded s L M) (hcalm : M.reaction = none) {k : Kind}
    {key : EntityKey} {f : Fields} (hfinds : Finds s k key f) :
    Loaded s L (M.addStored ⟨k, key.number⟩ f).2 := by
  have hstores := stores_addStored hcalm ⟨k, key.number⟩ f
  generalize (M.addStored ⟨k, key.number⟩ f).2 = N at hstores
  cases hstores with
  | nothing hsame =>
    refine ⟨?_, ?_, hsame.useCounter.trans h.useCounter⟩
    · rw [hsame.routes]
      exact h.kept
    · rw [hsame.routes]
      exact h.stamped
  | @adds y hkind hread hnew hroutes hcount =>
    refine ⟨fun r x hr => ?_, fun r x hr hfresh => ?_, hcount.trans h.useCounter⟩
    · -- An id that is taken is not added again, so a stored route replaces none.
      have hM := h.kept r x hr
      have hne : r ≠ y.config.id := by
        rintro rfl
        cases hnew.symm.trans hM
      rw [hroutes, Registry.get?_insert_of_ne _ hne, hM]
    · rw [hroutes, Registry.get?_insert] at hr
      split at hr
      · obtain rfl := Option.some.inj hr
        obtain rfl : k = .route := hkind
        exact hfinds.le_highestStamp hread
      · exact h.stamped r x hr hfresh

theorem loaded_loadKinds (hL : L.Sound) (s : σ) : Loaded s L (L.loadKinds s Enumeration.all).2 := by
  refine (loadKinds_keeps (P := fun M => M.Sound ∧ Loaded s L M) ?_ _ ⟨hL, ?_⟩).2
  · rintro k key f hfinds M ⟨hsound, h⟩
    exact ⟨hsound.addStored _ f, h.addStored hsound.calm hfinds⟩
  · refine ⟨fun _ _ hr => hr, fun r x hr hfresh => ?_, rfl⟩
    cases hr.symm.trans hfresh

theorem load_of_ok {u : Unit} (h : L.loadKinds s Enumeration.all = (.ok u, M)) :
    L.load s = (.ok (), { M with useCounter := max M.useCounter (highestStamp s) }) := by
  rw [load, h]

theorem load_of_error {e : StoreError} (h : L.loadKinds s Enumeration.all = (.error e, M)) :
    L.load s = (.error e, M) := by
  rw [load, h]

/-- Loading that succeeds brings the count forward to every stamp that it has loaded. -/
theorem Loaded.stampsCounted (hloaded : Loaded s L M) (h : L.StampsCounted) :
    StampsCounted { M with useCounter := max M.useCounter (highestStamp s) } := by
  intro r x hr
  show x.lastUsed ≤ max M.useCounter (highestStamp s)
  cases hold : L.routes.get? r with
  | some y =>
    obtain rfl := Option.some.inj ((hloaded.kept r y hold).symm.trans hr)
    rw [hloaded.useCounter]
    exact UInt64.le_trans (h r y hold) (le_max_count _ _).1
  | none => exact UInt64.le_trans (hloaded.stamped r x hr hold) (le_max_count _ _).2

/-- Loading that breaks off leaves the count where it was, so what matters is the stamps
of the routes that have come. -/
theorem Loaded.stampsCounted_iff (hloaded : Loaded s L M) (h : L.StampsCounted) :
    M.StampsCounted ↔ ∀ r x, M.routes.get? r = some x → L.routes.get? r = none →
      x.lastUsed ≤ L.useCounter := by
  constructor
  · intro hafter r x hr _
    rw [← hloaded.useCounter]
    exact hafter r x hr
  · intro hnew r x hr
    rw [hloaded.useCounter]
    cases hold : L.routes.get? r with
    | some y =>
      -- The route was there before and is the same.
      obtain rfl := Option.some.inj ((hloaded.kept r y hold).symm.trans hr)
      exact h r y hold
    | none => exact hnew r x hr hold

/-- **Loading** puts the count behind only if it breaks off. -/
theorem stampsCounted_load_iff (hL : L.Sound) (h : L.StampsCounted) (s : σ) :
    (L.load s).2.StampsCounted ↔ ¬ L.FallsBehind (.load s) := by
  have hloaded := loaded_loadKinds hL s
  cases hkinds : L.loadKinds s Enumeration.all with
  | mk result M =>
    rw [hkinds] at hloaded
    cases result with
    | ok _ =>
      have hload := load_of_ok hkinds
      rw [hload]
      refine iff_of_true (hloaded.stampsCounted h) fun hbehind => ?_
      cases hbehind with
      | breaksOff _ herror =>
        rw [hload] at herror
        cases herror
    | error e =>
      have hload := load_of_error hkinds
      have hM : (L.load s).2 = M := by rw [hload]
      rw [hM, hloaded.stampsCounted_iff h]
      constructor
      · intro hnew hbehind
        cases hbehind with
        | breaksOff _ _ hold hr hahead =>
          rw [hM] at hr
          exact UInt64.not_lt.2 (hnew _ _ hr hold) hahead
      · intro hnot r x hr hold
        -- A stamp that is ahead would be one that this loading has brought.
        by_contra hahead
        rw [← hM] at hr
        exact hnot (.breaksOff s (by rw [hload]) hold hr (UInt64.not_le.1 hahead))

end Loading

/-! ## A history -/

theorem stamps_step_iff (hL : L.Reachable) (h : L.StampsCounted) (next : Step) :
    (L.step next).StampsCounted ∧ L.StampsLast next ↔ ¬ L.FallsBehind next := by
  have hcalm := hL.sound.calm
  cases next with
  | load s =>
    rw [← stampsCounted_load_iff hL.sound h s]
    exact and_iff_left fun _ _ heq => by cases heq
  | elsewhere station notices =>
    exact iff_of_true ⟨h, fun _ _ heq => by cases heq⟩ fun hbehind => by cases hbehind
  | call c =>
    -- Nothing is at stake unless a route is really locked.
    by_cases hc : ∃ r l, c = .lockRoute r l ∧ (L.lockRoute r l).1 = true
    · obtain ⟨r, l, rfl, hlocked⟩ := hc
      constructor
      · rintro ⟨-, hlast⟩ hbehind
        cases hbehind with
        | wraps _ hcount => exact not_stampsLast_of_wraps hcalm hlocked hcount hlast
      · intro hnot
        exact lockRoute_stamps hcalm h hlocked fun hcount => hnot (.wraps hlocked hcount)
    · push Not at hc
      have hidle : ∀ r l, c = .lockRoute r l → (L.lockRoute r l).1 = false :=
        fun r l heq => Bool.eq_false_iff.2 (hc r l heq)
      refine iff_of_true ⟨h.call hL.sound hidle, ?_⟩ ?_
      · rintro r l ⟨⟩ hlocked
        exact absurd hlocked (hc r l rfl)
      · intro hbehind
        cases hbehind with
        | wraps hlocked => exact hc _ _ rfl hlocked

/-- **Stamps.** Throughout a history that begins without objects, no stamp is ahead of
the count, and a route that is locked gets a stamp that is not zero and greater than
all others, exactly if the count never falls behind: no route is locked when the count
is at the end of its range, and no loading breaks off after it has added a route whose
stamp is greater than the count. -/
theorem stamps_follow_counter_iff (approach : Approach) (station : CommandStation)
    (steps : List Step) :
    let L : Layout := { defaultApproach := approach, station := station }
    L.Throughout StampsCounted steps ∧ L.Each StampsLast steps ↔
      L.Each (fun M next => ¬ M.FallsBehind next) steps := by
  intro L
  have hstart : L.StampsCounted := fun r x hr => by cases hr
  exact throughout_and_each_iff (Reachable.start approach station) hstart
    (fun M hM h next => stamps_step_iff hM h next) steps

/-- Route 1 was used five times when it was stored. Loading takes it over and breaks off
at route 2, whose destination is missing. The next route that is locked counts as used
before route 1. -/
theorem not_stampsLast_after_load_breaks_off :
    let fields (r destination lastUsed : String) : Fields :=
      .ofList [("name", r), ("fromtrack", "1"), ("totrack", destination), ("lastused", lastUsed)]
    let stored : List (EntityKey × Fields) :=
      [(⟨.segment, 1⟩, .ofList [("name", "T1"), ("length", "1")]),
       (⟨.segment, 2⟩, .ofList [("name", "T2"), ("length", "1")]),
       (⟨.route, 1⟩, fields "R1" "2" "5"), (⟨.route, 2⟩, fields "R2" "9" "0")]
    let s : MemoryStore := { entities := .ofList stored }
    let L := run (load s empty).2
      [.addRoute { id := ⟨2⟩, name := "R2", origin := ⟨1⟩, destination := ⟨2⟩ },
       .reserveRoute ⟨2⟩ ⟨7⟩]
    ¬ L.StampsCounted ∧ ¬ L.StampsLast (.call (.lockRoute ⟨2⟩ ⟨7⟩)) := by
  intro fields stored s L
  let M := (L.lockRoute ⟨2⟩ ⟨7⟩).2
  have hahead : (L.routes.get? ⟨1⟩).map Route.lastUsed = some 5 ∧ L.useCounter = 0 := by
    decide
  have hlocked : (L.lockRoute ⟨2⟩ ⟨7⟩).1 = true := by decide
  have hfirst : (M.routes.get? ⟨1⟩).map Route.lastUsed = some 5 := by decide
  have hsecond : (M.routes.get? ⟨2⟩).map Route.lastUsed = some 1 := by decide
  constructor
  · intro h
    obtain ⟨x, hx, hstamp⟩ := Option.map_eq_some_iff.1 hahead.1
    have hle := h ⟨1⟩ x hx
    rw [hstamp, hahead.2] at hle
    exact absurd hle (by decide)
  · intro h
    obtain ⟨y, hy, -, hlast⟩ := h ⟨2⟩ ⟨7⟩ rfl hlocked
    obtain ⟨x, hx, hstamp⟩ := Option.map_eq_some_iff.1 hfirst
    have hless := hlast ⟨1⟩ x (by decide) hx
    have hy' : y.lastUsed = 1 := by
      rw [hy] at hsecond
      exact Option.some.inj hsecond
    rw [hstamp, hy'] at hless
    exact absurd hless (by decide)

end Interlocking.Layout
