/-
Releases that are put off.

A loco that gives up an occupied segment may have to wait until the segment
clears. What a call does with such a release depends on the past: whether one
was asked for, and whether it was called off since. The segment keeps one loco
in place of that past. This file says what the loco means.

`Outstanding` is the past, told without the segment's own note: some call put
the release off, and no call since has settled it. `outstanding_iff_waits`
says that the note and the past agree: a release by `a` is outstanding exactly
if `a` is noted and holds the segment. The second half is needed. A loco that
drops its reservation while its release waits stays noted, although it has
nothing left to release.

A release that waits happens when the segment clears. The segment keeps its
occupancy as a note, too, and that note is what the sensors add up to
(`clears_iff`).
-/
import Interlocking.Proofs.Segment.Sensors
import Mathlib.Data.List.Induction

set_option autoImplicit false

namespace Interlocking.Segment

/-! ## The past of a release -/

/-- Whether a release by `a` would be put off now. -/
structure PutsOff (g : Segment) (a : LocoId) : Prop where
  holder : g.lock.holder? = some a
  asked : g.releaseWhenFree = true
  occupied : g.occupancy = .occupied

/-- The calls that settle a release by `a` that was put off: they call it off,
put something in its place, or make it happen. -/
inductive Settles (g : Segment) (a : LocoId) : Call → Prop where
  | reserve (hb : (g.call (.reserve a)).answer = true) : Settles g a (.reserve a)
  | reserveForce (l : LocoId) : Settles g a (.reserveForce l)
  | release (hb : (g.call (.release a)).answer = true) (hn : ¬ g.PutsOff a) :
      Settles g a (.release a)
  | releaseForce (l : LocoId) : Settles g a (.releaseForce l)
  | unreserve (hb : (g.call (.unreserve a)).answer = true) : Settles g a (.unreserve a)
  /-- A report makes the release happen if the lock changes by it. -/
  | setSensorState (s : SensorId) (state : Occupancy)
      (hl : (g.call (.setSensorState s state)).segment.lock ≠ g.lock) :
      Settles g a (.setSensorState s state)
  | setSensors (sensors : List (SensorId × Occupancy))
      (hl : (g.call (.setSensors sensors)).segment.lock ≠ g.lock) :
      Settles g a (.setSensors sensors)

/-- Whether a release by `a` is outstanding after a run of calls: it was put
off by a call of the run and no later call settled it. -/
inductive Outstanding (g : Segment) (a : LocoId) : List Call → Prop where
  | putOff {calls : List Call} (h : (g.run calls).PutsOff a) :
      Outstanding g a (calls ++ [.release a])
  | still {calls : List Call} {c : Call} (h : Outstanding g a calls)
      (hc : ¬ (g.run calls).Settles a c) : Outstanding g a (calls ++ [c])

/-- The last call of a run decides: it puts the release off, or the release
was outstanding before and the call does not settle it. -/
theorem outstanding_concat_iff {g : Segment} {a : LocoId} {calls : List Call} {c : Call} :
    Outstanding g a (calls ++ [c]) ↔
      c = .release a ∧ (g.run calls).PutsOff a ∨
        Outstanding g a calls ∧ ¬ (g.run calls).Settles a c := by
  constructor
  · intro h
    -- The run has a name of its own, so that the cases keep what it is made of.
    generalize hcalls : calls ++ [c] = all at h
    cases h with
    | putOff h =>
      obtain ⟨rfl, hc⟩ := List.append_inj' hcalls rfl
      exact .inl ⟨List.head_eq_of_cons_eq hc, h⟩
    | still h hs =>
      obtain ⟨rfl, hc⟩ := List.append_inj' hcalls rfl
      obtain rfl := List.head_eq_of_cons_eq hc
      exact .inr ⟨h, hs⟩
  · rintro (⟨rfl, h⟩ | ⟨h, hs⟩)
    · exact .putOff h
    · exact .still h hs

/-! ## The note on the segment -/

/-- Whether `a` holds a segment and is noted to be leaving. -/
structure Core.Waits (k : Core) (a : LocoId) : Prop where
  noted : k.pending = some a
  holder : k.lock.holder? = some a

theorem not_settles_of_isSetting {g : Segment} {a : LocoId} {c : Call}
    (hc : c.isSetting = true) : ¬ g.Settles a c := by
  intro hs
  cases hs <;> cases hc

/-- A report settles a release exactly if the lock changes by it. -/
theorem settles_report_iff {g : Segment} {a : LocoId} {c : Call} (hc : c.isReport = true) :
    g.Settles a c ↔ (g.call c).segment.lock ≠ g.lock := by
  constructor
  · intro hs
    cases hs with
    | setSensorState s state hl | setSensors sensors hl => exact hl
    | _ => cases hc
  · intro hl
    cases c with
    | setSensorState s state => exact .setSensorState s state hl
    | setSensors sensors => exact .setSensors sensors hl
    | _ => cases hc

/-- A release that would be put off is not refused. -/
theorem PutsOff.answer {g : Segment} {a : LocoId} (h : g.PutsOff a) :
    (g.call (.release a)).answer = true := by
  simp only [call, release]
  rw [if_neg fun hne => hne h.holder, h.asked, h.occupied]
  rfl

/-- A refused call settles nothing. -/
theorem not_settles_of_refused {g : Segment} {a : LocoId} {c : Call}
    (hb : (g.call c).answer = false) : ¬ g.Settles a c := by
  intro hs
  have hseg : (g.call c).segment.lock = g.lock := by rw [call_refused g hb]; rfl
  cases hs with
  | reserve hb' | release hb' | unreserve hb' =>
    rw [hb'] at hb
    cases hb
  | reserveForce l =>
    simp only [call, reserveForce] at hb
    split at hb <;> cases hb
  | releaseForce l => cases hb
  | setSensorState s state hl | setSensors sensors hl => exact hl hseg

/-- A call that neither settles a release nor asks for one leaves the note as
it is, if it leaves the holder and the noted loco as they are. -/
theorem waits_iff_of_still {g : Segment} {a : LocoId} {c : Call} {k : Core}
    (hr : ¬ (c = .release a ∧ g.PutsOff a)) (hs : ¬ g.Settles a c)
    (hp : k.pending = g.pendingRelease) (hl : k.lock.holder? = g.lock.holder?) :
    k.Waits a ↔ c = .release a ∧ g.PutsOff a ∨ g.core.Waits a ∧ ¬ g.Settles a c := by
  constructor
  · intro h
    exact .inr ⟨⟨hp.symm.trans h.noted, hl.symm.trans h.holder⟩, hs⟩
  · rintro (h | ⟨h, -⟩)
    · exact absurd h hr
    · exact ⟨hp.trans h.noted, hl.trans h.holder⟩

/-- A call that settles the release that waits, if one does, leaves none. -/
theorem waits_iff_of_ended {g : Segment} {a : LocoId} {c : Call} {k : Core}
    (hr : ¬ (c = .release a ∧ g.PutsOff a)) (hs : g.core.Waits a → g.Settles a c)
    (hk : ¬ k.Waits a) :
    k.Waits a ↔ c = .release a ∧ g.PutsOff a ∨ g.core.Waits a ∧ ¬ g.Settles a c := by
  constructor
  · intro h
    exact absurd h hk
  · rintro (h | ⟨h, hn⟩)
    · exact absurd h hr
    · exact absurd (hs h) hn

/-- A loco that reserves a segment is no longer noted to be leaving it. -/
theorem withdrawn_ne (p : Option LocoId) (l : LocoId) :
    (if p = some l then none else p) ≠ some l := by
  split
  next h => exact fun hn => nomatch hn
  next h => exact h

/-- **One call.** After a call the holder `a` is noted to be leaving exactly if
the call puts off a release by `a`, or `a` was noted before and the call does
not settle the release. -/
theorem waits_call_iff (g : Segment) (a : LocoId) (c : Call) :
    (g.call c).segment.core.Waits a ↔
      c = .release a ∧ g.PutsOff a ∨ g.core.Waits a ∧ ¬ g.Settles a c := by
  have heff := g.call_effect c
  generalize hk : (g.call c).segment.core = k at heff
  generalize hb : (g.call c).answer = answer at heff
  have hlock : (g.call c).segment.lock = k.lock := congrArg Core.lock hk
  -- Only a release can put a release off; for every other call this is by its name.
  cases heff with
  | refused =>
    refine waits_iff_of_still ?_ (not_settles_of_refused hb) rfl rfl
    rintro ⟨rfl, h⟩
    rw [h.answer] at hb
    cases hb
  | setting hc =>
    refine waits_iff_of_still ?_ (not_settles_of_isSetting hc) rfl rfl
    rintro ⟨rfl, -⟩
    cases hc
  | unmoved hc | entered hc =>
    refine waits_iff_of_still ?_ (fun hs => (settles_report_iff hc).1 hs hlock) rfl rfl
    rintro ⟨rfl, -⟩
    cases hc
  | cleared hc ho hp =>
    refine waits_iff_of_ended ?_ (fun h => absurd h.holder (hp a h.noted)) (nomatch ·.noted)
    rintro ⟨rfl, -⟩
    cases hc
  | @fired _ l hc ho hp hl =>
    refine waits_iff_of_ended ?_ (fun _ => ?_) (nomatch ·.noted)
    · rintro ⟨rfl, -⟩
      cases hc
    · refine (settles_report_iff hc).2 fun he => ?_
      rw [← he, hlock] at hl
      cases hl
  | taken l hl =>
    refine waits_iff_of_ended (nomatch ·.1) (fun h => ?_) fun h => ?_
    · have hh : g.lock.holder? = some a := h.holder
      rw [hl] at hh
      cases hh
    · obtain rfl : l = a := Option.some.inj h.holder
      exact withdrawn_ne _ _ h.noted
  | kept l hl =>
    refine waits_iff_of_ended (nomatch ·.1) (fun h => ?_) fun h => ?_
    · obtain rfl : l = a := Option.some.inj (hl.symm.trans h.holder)
      exact .reserve hb
    · obtain rfl : l = a := Option.some.inj (hl.symm.trans h.holder)
      exact withdrawn_ne _ _ h.noted
  | seized l =>
    exact waits_iff_of_ended (nomatch ·.1) (fun _ => .reserveForce l) (nomatch ·.noted)
  | locked l hl =>
    exact waits_iff_of_still (nomatch ·.1) (fun hs => nomatch hs) rfl hl.symm
  | unlocked l hl =>
    have hh : g.lock.holder? = some l := by rw [hl]; rfl
    exact waits_iff_of_still (nomatch ·.1) (fun hs => nomatch hs) rfl hh.symm
  | putOff l hl hw ho =>
    constructor
    · intro h
      obtain rfl : l = a := Option.some.inj h.noted
      exact .inl ⟨rfl, ⟨hl, hw, ho⟩⟩
    · intro h
      have hla : g.lock.holder? = some a := h.elim (·.2.holder) (·.1.holder)
      obtain rfl : l = a := Option.some.inj (hl.symm.trans hla)
      exact ⟨rfl, hl⟩
  | released l hl hn =>
    have hoff : ¬ g.PutsOff a := fun h => hn ⟨h.asked, h.occupied⟩
    refine waits_iff_of_ended (fun h => hoff h.2) (fun h => ?_) (nomatch ·.noted)
    obtain rfl : l = a := Option.some.inj (hl.symm.trans h.holder)
    exact .release hb hoff
  | freed l =>
    exact waits_iff_of_ended (nomatch ·.1) (fun _ => .releaseForce l) (nomatch ·.noted)
  | dropped l hl =>
    refine waits_iff_of_ended (nomatch ·.1) (fun h => ?_) (nomatch ·.holder)
    have hh : g.lock.holder? = some a := h.holder
    rw [hl] at hh
    obtain rfl : l = a := Option.some.inj hh
    exact .unreserve hb

/-- **What the note means.** On a segment that began without a noted loco, the
holder `a` is noted to be leaving exactly if a release by `a` is outstanding. -/
theorem outstanding_iff_waits {g : Segment} (h0 : g.pendingRelease = none) (a : LocoId)
    (calls : List Call) : Outstanding g a calls ↔ (g.run calls).core.Waits a := by
  induction calls using List.reverseRecOn with
  | nil =>
    constructor
    · intro h
      generalize hn : ([] : List Call) = none at h
      cases h <;> simp at hn
    · intro h
      exact nomatch h0.symm.trans h.noted
  | append_singleton calls c ih =>
    rw [outstanding_concat_iff, ih, run_append, run_cons, run_nil, waits_call_iff]

/-! ## When a release happens -/

/-- A report changes the lock exactly if the segment clears by it while the
holder is noted to be leaving. -/
theorem lock_report_ne_iff {g : Segment} {c : Call} (hc : c.isReport = true) :
    (g.call c).segment.lock ≠ g.lock ↔
      g.occupancy = .occupied ∧ (g.call c).segment.occupancy = .free ∧ ∃ a, g.core.Waits a := by
  obtain ⟨answer, k, heff, -, hlock, -, hocc, -⟩ := g.call_parts c
  rw [hlock, hocc]
  have hsame : ∀ o, g.occupancy = .occupied ∧ o = .free → o ≠ g.occupancy := by
    rintro o ⟨ho, rfl⟩ he
    rw [ho] at he
    cases he
  cases heff with
  | refused | unmoved =>
    constructor
    · intro hne
      exact absurd rfl hne
    · rintro ⟨ho, hf, -⟩
      exact absurd rfl (hsame _ ⟨ho, hf⟩)
  | entered =>
    constructor
    · intro hne
      exact absurd rfl hne
    · rintro ⟨-, hf, -⟩
      cases hf
  | cleared _ ho hp =>
    constructor
    · intro hne
      exact absurd rfl hne
    · rintro ⟨-, -, a, h⟩
      exact absurd h.holder (hp a h.noted)
  | @fired _ l _ ho hp hl =>
    constructor
    · intro _
      exact ⟨ho, rfl, l, hp, hl⟩
    · rintro - he
      rw [← he] at hl
      cases hl
  | setting hs => cases c <;> cases hs <;> cases hc
  | _ => cases hc

/-- A report that changes the lock frees the segment, and no release waits. -/
theorem free_of_lock_report_ne {g : Segment} {c : Call} (hc : c.isReport = true)
    (hne : (g.call c).segment.lock ≠ g.lock) :
    (g.call c).segment.lock = .free ∧ (g.call c).segment.pendingRelease = none := by
  obtain ⟨answer, k, heff, -, hlock, hpend, -, -⟩ := g.call_parts c
  rw [hlock] at hne
  rw [hlock, hpend]
  cases heff with
  | refused | unmoved | entered | cleared => exact absurd rfl hne
  | fired => exact ⟨rfl, rfl⟩
  | setting => exact absurd rfl hne
  | _ => cases hc

/-- A release that is outstanding at the end of a run was so before, or was put
off since. -/
theorem outstanding_append {g : Segment} {a : LocoId} {calls later : List Call}
    (h : Outstanding g a (calls ++ later)) :
    Outstanding g a calls ∨
      ∃ between after, later = between ++ .release a :: after ∧
        (g.run (calls ++ between)).PutsOff a := by
  induction later using List.reverseRecOn with
  | nil =>
    rw [List.append_nil] at h
    exact .inl h
  | append_singleton later c ih =>
    rw [← List.append_assoc, outstanding_concat_iff] at h
    rcases h with ⟨rfl, hoff⟩ | ⟨h, -⟩
    · exact .inr ⟨later, [], rfl, hoff⟩
    · rcases ih h with hout | ⟨between, after, hl, hoff⟩
      · exact .inl hout
      · exact .inr ⟨between, after ++ [c], by rw [hl]; simp, hoff⟩

/-- The calls that leave a release alone that was put off: locking, unlocking,
and the settings for releases and for reservations. -/
inductive Call.Neutral : Call → Prop where
  | lock (l : LocoId) : Neutral (.lock l)
  | unlock (l : LocoId) : Neutral (.unlock l)
  | setReleaseWhenFree (b : Bool) : Neutral (.setReleaseWhenFree b)
  | setBlocked (b : Bool) : Neutral (.setBlocked b)

/-- A neutral call settles nothing and puts nothing off. -/
theorem outstanding_neutral_iff {g : Segment} {a : LocoId} {calls : List Call} {c : Call}
    (hc : c.Neutral) : Outstanding g a (calls ++ [c]) ↔ Outstanding g a calls := by
  have hs : ¬ (g.run calls).Settles a c := by
    intro hs
    cases hc <;> cases hs
  have hr : c ≠ .release a := by
    rintro rfl
    cases hc
  rw [outstanding_concat_iff]
  constructor
  · rintro (⟨rfl, -⟩ | ⟨h, -⟩)
    · exact absurd rfl hr
    · exact h
  · intro h
    exact .inr ⟨h, hs⟩

/-- **What clearing means.** On the segment of a configuration, after any run of
calls, the occupancy is what the sensors add up to: a segment clears by a call
exactly if one of its sensors was occupied and none is after the call. -/
theorem clears_iff (cfg : SegmentConfig) (calls : List Call) (c : Call) :
    let g := (ofConfig cfg).run calls
    g.occupancy = .occupied ∧ (g.call c).segment.occupancy = .free ↔
      (∃ s, (s, .occupied) ∈ g.sensors) ∧
        ∀ s, (s, .occupied) ∉ (g.call c).segment.sensors := by
  intro g
  have hg : g.Settled := (settled_ofConfig cfg).run calls
  rw [hg.occupied_iff, (hg.call c).free_iff]

/-- **A release that was put off happens when the segment clears, once.** On
the segment of a configuration, after any run of calls:
a report changes the lock exactly if the segment clears by it while a release
of the holder is outstanding; the segment is then free, no release waits, and
no later report changes the lock unless another release is put off first; and
locking, unlocking and the two settings leave a release outstanding that is
so, with the loco noted and holding the segment. -/
theorem report_completes_outstanding_release (cfg : SegmentConfig) (calls : List Call) :
    let start := ofConfig cfg
    let g := start.run calls
    (∀ c : Call, c.isReport = true →
      ((g.call c).segment.lock ≠ g.lock ↔
        g.occupancy = .occupied ∧ (g.call c).segment.occupancy = .free ∧
          ∃ a, g.lock.holder? = some a ∧ Outstanding start a calls)) ∧
    (∀ c : Call, c.isReport = true → (g.call c).segment.lock ≠ g.lock →
      (g.call c).segment.lock = .free ∧ (g.call c).segment.pendingRelease = none ∧
        ∀ (later : List Call) (c' : Call), c'.isReport = true →
          ((start.run (calls ++ c :: later)).call c').segment.lock
              ≠ (start.run (calls ++ c :: later)).lock →
            ∃ between a after, later = between ++ .release a :: after ∧
              (start.run (calls ++ c :: between)).PutsOff a) ∧
    (∀ (c : Call) (a : LocoId), c.Neutral → Outstanding start a calls →
      Outstanding start a (calls ++ [c]) ∧
        (g.call c).segment.pendingRelease = some a ∧
        (g.call c).segment.lock.holder? = some a) := by
  intro start g
  have hnote : ∀ (more : List Call) (a : LocoId),
      Outstanding start a more ↔ (start.run more).core.Waits a :=
    fun more a => outstanding_iff_waits rfl a more
  refine ⟨fun c hc => ?_, fun c hc hne => ?_, fun c a hc hout => ?_⟩
  · rw [lock_report_ne_iff hc]
    refine and_congr_right fun _ => and_congr_right fun _ => exists_congr fun a => ?_
    rw [hnote]
    exact ⟨fun h => ⟨h.holder, h⟩, fun h => h.2⟩
  · obtain ⟨hfree, hnone⟩ := free_of_lock_report_ne hc hne
    refine ⟨hfree, hnone, fun later c' hc' hne' => ?_⟩
    obtain ⟨-, -, a, ha⟩ := (lock_report_ne_iff hc').1 hne'
    have hout : Outstanding start a ((calls ++ [c]) ++ later) := by
      rw [hnote, List.append_assoc]
      exact ha
    rcases outstanding_append hout with hold | ⟨between, after, hl, hoff⟩
    · -- Right after the report nobody is noted, so nothing is outstanding.
      rw [hnote, run_append] at hold
      exact absurd (hnone.symm.trans hold.noted) (fun h => nomatch h)
    · rw [List.append_assoc] at hoff
      exact ⟨between, a, after, hl, hoff⟩
  · have hout' := (outstanding_neutral_iff hc).2 hout
    have hwaits := (hnote _ _).1 hout'
    rw [run_append] at hwaits
    exact ⟨hout', hwaits.noted, hwaits.holder⟩

end Interlocking.Segment
