/-
Segments and accessories are locked alike.

Both have a lock, and a loco asks the same five things of either: to reserve it, to lock
it, to unlock it, to release it and to drop a reservation. An accessory hands these on to
its lock (`Accessory.call_move`). A segment has reasons of its own to refuse and to wait,
and these do not apply as long as it is open and does not put releases off; then it hands
them on as well (`Segment.call_move`).

The reports that a segment hears in between could still free it. They do so only for a
loco that waits to leave, and on a segment that never put a release off no loco does
(`Segment.pending_call`). So the two locks keep step over every run (`Twins.Alike`).
-/
import Interlocking.Proofs.Accessory
import Interlocking.Proofs.Segment.PendingRelease
import Interlocking.Proofs.Segment.Sensors
import Mathlib.Data.List.Infix

set_option autoImplicit false

namespace Interlocking

/-! ## Moves -/

/-- What a loco can ask of anything that has a lock. -/
inductive Lock.Move where
  | reserve (l : LocoId)
  | lock (l : LocoId)
  | unlock (l : LocoId)
  | release (l : LocoId)
  | unreserve (l : LocoId)
  deriving DecidableEq, Repr

namespace Lock.Move

/-- What a move does to a lock. -/
def change : Lock.Move → Lock → Option Lock
  | reserve l => Lock.reserve l
  | lock l => Lock.lock l
  | unlock l => Lock.unlock l
  | release l => Lock.release l
  | unreserve l => Lock.unreserve l

/-- The move as a call on a segment. -/
def onSegment : Lock.Move → Segment.Call
  | reserve l => .reserve l
  | lock l => .lock l
  | unlock l => .unlock l
  | release l => .release l
  | unreserve l => .unreserve l

/-- The move as a call on an accessory. -/
def onAccessory : Lock.Move → Accessory.Call
  | reserve l => .reserve l
  | lock l => .lock l
  | unlock l => .unlock l
  | release l => .release l
  | unreserve l => .unreserve l

end Lock.Move

/-- An accessory makes every move as its lock does. -/
theorem Accessory.call_move (a : Accessory) (m : Lock.Move) :
    a.call m.onAccessory = a.step m.change := by
  cases m with
  | reserve l =>
    simp only [Lock.Move.onAccessory, call, tryReserve, step, Lock.Move.change]
    cases a.lock.reserve l <;> rfl
  | lock l =>
    simp only [Lock.Move.onAccessory, call, tryLock, step, Lock.Move.change]
    cases a.lock.lock l <;> rfl
  | unlock | release | unreserve => rfl

namespace Segment

variable {g : Segment} {c : Call}

/-- An open segment that does not put releases off makes every move as its lock does. -/
theorem call_move (hopen : g.blocked = false) (hprompt : g.releaseWhenFree = false)
    (m : Lock.Move) :
    (g.call m.onSegment).answer = (m.change g.lock).isSome ∧
      (g.call m.onSegment).segment.lock = (m.change g.lock).getD g.lock := by
  cases m with
  | reserve l =>
    simp only [Lock.Move.onSegment, call, tryReserve, hopen, Lock.Move.change]
    cases g.lock.reserve l with
    | none => exact ⟨rfl, rfl⟩
    | some k =>
      by_cases hp : g.pendingRelease = some l <;> simp [hp, silently]
  | lock l =>
    simp only [Lock.Move.onSegment, call, tryLock, Lock.Move.change]
    cases g.lock.lock l <;> exact ⟨rfl, rfl⟩
  | unlock l =>
    simp only [Lock.Move.onSegment, call, unlock, Lock.Move.change]
    cases g.lock.unlock l <;> exact ⟨rfl, rfl⟩
  | release l =>
    simp only [Lock.Move.onSegment, call, release, hprompt, Lock.Move.change, Lock.release]
    by_cases hl : g.lock.holder? = some l <;> simp [hl, silently, publicly]
  | unreserve l =>
    simp only [Lock.Move.onSegment, call, unreserve, Lock.Move.change]
    cases g.lock.unreserve l <;> simp [silently]

/-- No loco begins to wait on a segment that does not put releases off. -/
theorem pending_call (hprompt : g.releaseWhenFree = false) (hnone : g.pendingRelease = none)
    (c : Call) : (g.call c).segment.pendingRelease = none := by
  obtain ⟨answer, k, heff, -, -, hpending, -, -⟩ := g.call_parts c
  rw [hpending]
  cases heff with
  | refused | setting | unmoved | entered | locked | unlocked | dropped => exact hnone
  | cleared | fired | seized | released | freed => rfl
  | taken | kept =>
    show (if g.pendingRelease = _ then none else g.pendingRelease) = none
    rw [hnone, ite_self]
  | putOff l hl hw => cases hprompt.symm.trans hw

/-- Reports and settings leave the lock alone where no loco waits. -/
theorem lock_call_of_aside (hnone : g.pendingRelease = none)
    (hc : c.isReport = true ∨ c.isSetting = true) : (g.call c).segment.lock = g.lock := by
  rcases hc with hc | hc
  · by_contra hne
    obtain ⟨-, -, a, hwaits⟩ := (lock_report_ne_iff hc).1 hne
    cases hnone.symm.trans hwaits.noted
  · exact congrArg Core.lock (g.core_call_setting hc)

end Segment

/-! ## Side by side -/

/-- A segment and an accessory that locos use alike. -/
structure Twins where
  segment : Segment
  accessory : Accessory

namespace Twins

/-- What happens to the two. -/
inductive Event where
  /-- A loco asks the same of both. -/
  | move (m : Lock.Move)
  /-- Something that the accessory has no part in. -/
  | segment (c : Segment.Call)
  /-- The accessory is set to an output. -/
  | output (o : Output)
  deriving DecidableEq, Repr

variable {p : Twins} {e : Event} {events : List Event}

/-- The two after an event. -/
def step (p : Twins) : Event → Twins
  | .move m => ⟨(p.segment.call m.onSegment).segment, (p.accessory.call m.onAccessory).2⟩
  | .segment c => ⟨(p.segment.call c).segment, p.accessory⟩
  | .output o => ⟨p.segment, (p.accessory.call (.setOutput o)).2⟩

/-- The two after a run of events. -/
def run (p : Twins) (events : List Event) : Twins := events.foldl step p

theorem run_concat : p.run (events ++ [e]) = (p.run events).step e := by
  simp only [run, List.foldl_append, List.foldl_cons, List.foldl_nil]

/-- The segment is open and does not put releases off, in every state of a run, and what
happens to it besides the moves is that sensors report and that settings change. -/
structure Plain (p : Twins) (events : List Event) : Prop where
  unblocked : ∀ before, before <+: events → (p.run before).segment.blocked = false
  prompt : ∀ before, before <+: events → (p.run before).segment.releaseWhenFree = false
  aside : ∀ c, .segment c ∈ events → c.isReport = true ∨ c.isSetting = true

theorem Plain.of_concat (h : p.Plain (events ++ [e])) : p.Plain events where
  unblocked before hb := h.unblocked before (hb.trans (List.prefix_append events [e]))
  prompt before hb := h.prompt before (hb.trans (List.prefix_append events [e]))
  aside c hc := h.aside c (List.mem_append_left _ hc)

/-- The locks are equal, and no loco waits to leave the segment. -/
structure Alike (p : Twins) : Prop where
  lock : p.segment.lock = p.accessory.lock
  pending : p.segment.pendingRelease = none

/-- **One move**: both grant it or both refuse it, and the locks are equal again. -/
theorem Alike.move (h : p.Alike) (hopen : p.segment.blocked = false)
    (hprompt : p.segment.releaseWhenFree = false) (m : Lock.Move) :
    (p.segment.call m.onSegment).answer = (p.accessory.call m.onAccessory).1 ∧
      (p.segment.call m.onSegment).segment.lock = (p.accessory.call m.onAccessory).2.lock := by
  obtain ⟨hanswer, hlock⟩ := Segment.call_move hopen hprompt m
  rw [hanswer, hlock, Accessory.call_move, Accessory.step, h.lock]
  cases m.change p.accessory.lock <;> exact ⟨rfl, rfl⟩

theorem Alike.step (h : p.Alike) (hopen : p.segment.blocked = false)
    (hprompt : p.segment.releaseWhenFree = false)
    (haside : ∀ c, e = .segment c → c.isReport = true ∨ c.isSetting = true) :
    (p.step e).Alike := by
  cases e with
  | move m => exact ⟨(h.move hopen hprompt m).2, Segment.pending_call hprompt h.pending _⟩
  | segment c =>
    have hlock := Segment.lock_call_of_aside h.pending (haside c rfl)
    exact ⟨hlock.trans h.lock, Segment.pending_call hprompt h.pending c⟩
  | output o => exact ⟨h.lock, h.pending⟩

/-- **A run of events** keeps the two alike. -/
theorem Alike.run (h : p.Alike) (hplain : p.Plain events) : (p.run events).Alike := by
  induction events using List.reverseRecOn with
  | nil => exact h
  | append_singleton events e ih =>
    have hbefore : events <+: events ++ [e] := List.prefix_append events [e]
    rw [run_concat]
    refine (ih hplain.of_concat).step (hplain.unblocked _ hbefore) (hplain.prompt _ hbefore) ?_
    rintro c rfl
    exact hplain.aside c (List.mem_append_right _ (List.mem_singleton_self _))

/-- **Accessories are locked like segments.** A new segment and a new accessory of which
locos ask the same have the same lock after any run of events, whatever sensors report
to the segment, however its settings change and whatever the accessory is set to, as
long as the segment is open and does not put releases off. Whatever a loco asks next,
both give the same answer and have the same lock again. -/
theorem accessories_lock_like_segments (cfg : SegmentConfig) (dev : AccessoryConfig)
    (hplain : Plain ⟨.ofConfig cfg, .ofConfig dev⟩ events) :
    let p := run ⟨.ofConfig cfg, .ofConfig dev⟩ events
    p.segment.lock = p.accessory.lock ∧
      ∀ m : Lock.Move,
        (p.segment.call m.onSegment).answer = (p.accessory.call m.onAccessory).1 ∧
          (p.segment.call m.onSegment).segment.lock = (p.accessory.call m.onAccessory).2.lock := by
  intro p
  have halike : p.Alike := Alike.run ⟨rfl, rfl⟩ hplain
  refine ⟨halike.lock, fun m => ?_⟩
  have hself : events <+: events := List.prefix_rfl
  exact halike.move (hplain.unblocked _ hself) (hplain.prompt _ hself) m

/-- The segment is occupied when the loco leaves it, and clears by getting another list of
sensors when the next loco has reserved it. -/
theorem accessories_lock_like_segments_in_traffic :
    let cfg : SegmentConfig := { id := ⟨2⟩, name := "T2", length := 1, sensors := [⟨1⟩] }
    let dev : AccessoryConfig := { id := ⟨3⟩, name := "A3", address := 9 }
    let events : List Event :=
      [.move (.reserve ⟨7⟩), .segment (.setSensorState ⟨1⟩ .occupied), .output .on,
       .move (.reserve ⟨8⟩), .move (.lock ⟨7⟩), .segment (.setName "Platform"),
       .segment (.setOrientation .left), .move (.release ⟨7⟩), .move (.reserve ⟨8⟩),
       .segment (.setSensors [(⟨4⟩, .free)]), .output .off]
    let p := run ⟨.ofConfig cfg, .ofConfig dev⟩ events
    Plain ⟨.ofConfig cfg, .ofConfig dev⟩ events ∧ p.accessory.lock = .reserved ⟨8⟩ ∧
      p.segment.lock = p.accessory.lock ∧
      ∀ m : Lock.Move,
        (p.segment.call m.onSegment).answer = (p.accessory.call m.onAccessory).1 := by
  intro cfg dev events p
  have hstates : ∀ before ∈ events.inits,
      (run ⟨.ofConfig cfg, .ofConfig dev⟩ before).segment.blocked = false ∧
        (run ⟨.ofConfig cfg, .ofConfig dev⟩ before).segment.releaseWhenFree = false := by
    decide
  have haside : ∀ e ∈ events, ∀ c, e = .segment c → c.isReport = true ∨ c.isSetting = true := by
    simp [events, Segment.Call.isReport, Segment.Call.isSetting]
  have hplain : Plain ⟨.ofConfig cfg, .ofConfig dev⟩ events :=
    ⟨fun before hb => (hstates before ((List.mem_inits _ _).2 hb)).1,
      fun before hb => (hstates before ((List.mem_inits _ _).2 hb)).2,
      fun c hc => haside _ hc c rfl⟩
  obtain ⟨hlock, hmove⟩ := accessories_lock_like_segments cfg dev hplain
  exact ⟨hplain, by decide, hlock, fun m => (hmove m).1⟩

end Twins
end Interlocking
