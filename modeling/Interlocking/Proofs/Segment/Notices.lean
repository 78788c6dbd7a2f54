/-
What observers are told about a segment, and what they can tell from it.

A call either sends the snapshot of the segment as it leaves it, or it sends nothing
and then changes nothing that an observer would have to be told (`reports_call`). The
notices of a run of calls are those of its calls in order (`told`), and whoever goes by
the last of them has the right picture (`depicts_run`).

What counts as the right picture is `Snapshot.Depicts`. Nobody is told about
reservations, so a segment that is shown as free may be reserved. Dropping a
reservation is silent as well, and after it the picture may be one of the segment as
it was when it was reserved; this is the one call that has to be excepted.
-/
import Interlocking.Proofs.Segment.Routes
import Interlocking.Proofs.Segment.Step

set_option autoImplicit false

namespace Interlocking

/-! ## Pictures -/

/-- Whether an observer who has the snapshot has the right picture of a segment. It
need not know that the segment is reserved, nor whose release waits. -/
structure Snapshot.Depicts (s : Snapshot) (g : Segment) : Prop where
  occupancy : s.occupancy = g.occupancy
  occupancyDelayed : s.occupancyDelayed = g.occupancyDelayed
  blocked : s.blocked = g.blocked
  orientation : s.orientation = g.orientation
  lock : s.lock = g.lock ∨ s.lock = .free ∧ ∃ l, g.lock = .reserved l

theorem Segment.depicts_self (g : Segment) : g.snapshot.Depicts g :=
  ⟨rfl, rfl, rfl, rfl, .inl rfl⟩

/-- A right picture stays right over a change of which nobody needs to be told. -/
theorem Snapshot.Depicts.trans {s : Snapshot} {g g' : Segment} (h : s.Depicts g)
    (h' : g.snapshot.Depicts g') : s.Depicts g' where
  occupancy := h.occupancy.trans h'.occupancy
  occupancyDelayed := h.occupancyDelayed.trans h'.occupancyDelayed
  blocked := h.blocked.trans h'.blocked
  orientation := h.orientation.trans h'.orientation
  lock := by
    rcases h'.lock with heq | ⟨hfree, l, hl⟩
    · have hlock : g.lock = g'.lock := heq
      rw [← hlock]
      exact h.lock
    · -- What is reserved now was free, and the picture shows it free either way.
      rcases h.lock with heq | ⟨hshown, -⟩
      · exact .inr ⟨heq.trans hfree, l, hl⟩
      · exact .inr ⟨hshown, l, hl⟩

namespace Segment

variable {g g' : Segment} {c : Call} {calls : List Call} {s : Snapshot} {l : LocoId}

/-! ## One call -/

theorem id_call (g : Segment) (c : Call) : (g.call c).segment.id = g.id := by
  by_cases hc : c.Lists
  · cases hc with
    | addRoute r p => exact id_addRoute
    | removeRoute r => rfl
  · exact (g.call_keeps hc).1

theorem id_run (g : Segment) (calls : List Call) : (g.run calls).id = g.id :=
  List.foldlRecOn calls (motive := fun g' : Segment => g'.id = g.id) _ rfl
    fun g' hg' c _ => (g'.id_call c).trans hg'

/-- What observers hear of a change. -/
inductive Reports {α : Type} (g : Segment) (o : Outcome α) : Prop where
  /-- They are sent the segment as it is after the change. -/
  | told (h : o.notice = some o.segment.snapshot)
  /-- They hear nothing, and the segment as it was before will do. -/
  | untold (h : o.notice = none) (hseen : g.snapshot.Depicts o.segment)

theorem Reports.silently {α : Type} (answer : α) (g : Segment) :
    g.Reports (silently answer g) :=
  .untold rfl g.depicts_self

theorem Reports.publicly {α : Type} (answer : α) (g g' : Segment) :
    g.Reports (publicly answer g') :=
  .told rfl

/-- A reservation moves a lock from free to reserved, or not at all. -/
theorem depicts_of_tryReserve {grant : Grant} (h : g.tryReserve l = some (grant, g')) :
    g.snapshot.Depicts g' := by
  simp only [tryReserve] at h
  split at h
  · cases h
  obtain ⟨k, hk, hgrant⟩ := Option.map_eq_some_iff.1 h
  have hlock : g.lock = k ∨ g.lock = .free ∧ ∃ l, k = .reserved l := by
    rcases Lock.reserve_eq_some_iff.1 hk with ⟨hl, rfl⟩ | ⟨-, rfl⟩
    · exact .inr ⟨hl, l, rfl⟩
    · exact .inl rfl
  split at hgrant
  · cases hgrant
    exact ⟨rfl, rfl, rfl, rfl, hlock⟩
  · cases hgrant
    exact ⟨rfl, rfl, rfl, rfl, hlock⟩

/-- **What a call tells.** -/
theorem reports_call (g : Segment) (hc : ∀ l, c ≠ .unreserve l) : g.Reports (g.call c) := by
  cases c with
  | reserve l =>
    simp only [call]
    split
    next hr => exact .untold rfl (depicts_of_tryReserve hr)
    next => exact .silently false g
  | reserveForce l =>
    simp only [call, reserveForce]
    split
    next hl => exact .untold rfl ⟨rfl, rfl, rfl, rfl, .inl hl⟩
    next => exact .publicly true g _
  | lock l =>
    simp only [call, tryLock]
    split
    · exact .told rfl
    · exact .silently false g
  | unlock l =>
    simp only [call, unlock]
    split
    · exact .publicly true g _
    · exact .silently false g
  | release l =>
    simp only [call, release]
    split
    · exact .silently false g
    · split <;> exact .publicly true g _
  | releaseForce l => exact .publicly true g _
  | unreserve l => exact absurd rfl (hc l)
  | setSensorState s state =>
    -- A report is passed on exactly if the occupancy changes.
    simp only [call, setSensorState]
    split
    · split
      · exact .silently true g
      · split
        · exact .publicly true g _
        · exact .untold rfl ⟨rfl, rfl, rfl, rfl, .inl rfl⟩
    · exact .silently false g
  | setSensors sensors =>
    simp only [call, setSensors]
    split
    · exact .told rfl
    · exact .untold rfl ⟨rfl, rfl, rfl, rfl, .inl rfl⟩
  | addRoute r p =>
    obtain ⟨routes, hroutes⟩ := g.addRoute_frame r p
    have hcall : (g.call (.addRoute r p)).segment = { g with routes := routes } := hroutes
    refine .untold rfl ?_
    rw [hcall]
    exact ⟨rfl, rfl, rfl, rfl, .inl rfl⟩
  | setOrientation o =>
    simp only [call, setOrientation]
    split
    · exact .silently true g
    · exact .told rfl
  | setBlocked b =>
    simp only [call, setBlocked]
    split
    · exact .silently true g
    · exact .told rfl
  | removeRoute | setName | setKind | setLength | setReleaseWhenFree | setApproach =>
    exact .untold rfl ⟨rfl, rfl, rfl, rfl, .inl rfl⟩

theorem notice_reserve (g : Segment) (l : LocoId) : (g.call (.reserve l)).notice = none := by
  simp only [call]
  split <;> rfl

theorem notice_unreserve (g : Segment) (l : LocoId) : (g.call (.unreserve l)).notice = none := by
  simp only [call, unreserve]
  split <;> rfl

/-- **A notice shows the segment** as the call that sends it leaves it. -/
theorem notice_call (h : (g.call c).notice = some s) : s = (g.call c).segment.snapshot := by
  by_cases hdrops : ∃ l, c = .unreserve l
  · obtain ⟨l, rfl⟩ := hdrops
    cases (g.notice_unreserve l).symm.trans h
  · cases g.reports_call fun l hl => hdrops ⟨l, hl⟩ with
    | told htold => exact Option.some.inj (h.symm.trans htold)
    | untold huntold => cases huntold.symm.trans h

/-- **One call.** Whoever has the right picture before a call and hears its notice has
the right picture after it. -/
theorem depicts_call (h : s.Depicts g) (hc : ∀ l, c ≠ .unreserve l) :
    ((g.call c).notice.getD s).Depicts (g.call c).segment := by
  cases g.reports_call hc with
  | told htold =>
    rw [htold]
    exact depicts_self _
  | untold huntold hseen =>
    rw [huntold]
    exact h.trans hseen

/-! ## A run of calls -/

/-- The notices of a run of calls, in order. -/
def told (g : Segment) : List Call → List Snapshot
  | [] => []
  | c :: calls => (g.call c).notice.toList ++ (g.call c).segment.told calls

@[simp] theorem told_nil (g : Segment) : g.told [] = [] := rfl

theorem told_cons (g : Segment) (c : Call) (calls : List Call) :
    g.told (c :: calls) = (g.call c).notice.toList ++ (g.call c).segment.told calls := rfl

theorem told_singleton (g : Segment) (c : Call) : g.told [c] = (g.call c).notice.toList :=
  List.append_nil _

theorem told_append (g : Segment) (calls more : List Call) :
    g.told (calls ++ more) = g.told calls ++ (g.run calls).told more := by
  induction calls generalizing g with
  | nil => rfl
  | cons c calls ih => rw [List.cons_append, told_cons, ih, told_cons, List.append_assoc, run_cons]

theorem told_eq_nil (h : ∀ c ∈ calls, ∀ g : Segment, (g.call c).notice = none) :
    g.told calls = [] := by
  induction calls generalizing g with
  | nil => rfl
  | cons c calls ih =>
    rw [told_cons, h c List.mem_cons_self, ih fun c' hc' => h c' (List.mem_cons_of_mem _ hc')]
    rfl

/-- Every notice of a run was sent by one of its calls. -/
theorem exists_of_mem_told (h : s ∈ g.told calls) :
    ∃ before c after, calls = before ++ c :: after ∧ ((g.run before).call c).notice = some s := by
  induction calls generalizing g with
  | nil => cases h
  | cons c calls ih =>
    rcases List.mem_append.1 h with hfirst | hlater
    · exact ⟨[], c, calls, rfl, Option.mem_toList.1 hfirst⟩
    · obtain ⟨before, c', after, hcalls, hn⟩ := ih hlater
      exact ⟨c :: before, c', after, by rw [hcalls]; rfl, hn⟩

theorem id_of_mem_told (h : s ∈ g.told calls) : s.id = g.id := by
  obtain ⟨before, c, -, -, hn⟩ := exists_of_mem_told h
  rw [notice_call hn, ← g.id_run before]
  exact id_call _ c

/-- **A run of calls** none of which drops a reservation: whoever has the right picture
and goes by the last of the notices has the right picture in the end. -/
theorem depicts_run (h : s.Depicts g) (hcalls : ∀ c ∈ calls, ∀ l, c ≠ .unreserve l) :
    ((g.told calls).getLast?.getD s).Depicts (g.run calls) := by
  induction calls generalizing g s with
  | nil => exact h
  | cons c calls ih =>
    have hfirst := depicts_call h (hcalls c List.mem_cons_self)
    have hrest := ih hfirst fun c' hc' => hcalls c' (List.mem_cons_of_mem _ hc')
    -- The last notice is that of a later call, or else that of the first.
    have hlast : ((g.told (c :: calls)).getLast?.getD s) =
        ((g.call c).segment.told calls).getLast?.getD ((g.call c).notice.getD s) := by
      rw [told_cons, List.getLast?_append]
      cases ((g.call c).segment.told calls).getLast? <;> cases (g.call c).notice <;> rfl
    rw [hlast]
    exact hrest

end Segment
end Interlocking
