/-
Observers are not left with a wrong picture.

An observer knows how a segment was when it was added and goes by the last notice
about it since (`watch`). After any operations, that picture shows every segment as it
is, except that a segment which it shows as free may be reserved
(`Snapshot.Depicts`). The invariant is carried from call to call inside an operation,
because an operation such as giving a segment a new configuration sends several
notices, and from operation to operation by `Publishes.depicted`.
-/
import Interlocking.Proofs.Layout.Notices
import Interlocking.Proofs.Layout.Saving

set_option autoImplicit false

namespace Interlocking.Layout

variable {L M : Layout}

/-! ## What an observer has -/

/-- What an observer has of each segment; nothing of those that are not there. -/
def Picture : Type := SegmentId → Option Snapshot

variable {p : Picture}

/-- The picture after a step from `L` to `M`. A segment that was added is seen once;
of any other, the last notice about it counts, and if there is none, the picture from
before. -/
def watch (L M : Layout) (p : Picture) : Picture := fun t =>
  match L.segments.get? t, M.segments.get? t with
  | _, none => none
  | none, some g => some g.snapshot
  | some _, some _ => (about t (L.news M)).getLast?.or (p t)

/-- The layouts that operations lead to, with the picture of an observer who watches
from the beginning. Loading is told object by object. -/
inductive Watched : Layout → Picture → Prop where
  | start (approach : Approach) (station : CommandStation) :
      Watched { defaultApproach := approach, station := station } fun _ => none
  | call {L : Layout} {p : Picture} (h : Watched L p) (c : Call) :
      Watched (L.call c).2 (L.watch (L.call c).2 p)
  | addStored {L : Layout} {p : Picture} (h : Watched L p) (key : EntityKey) (f : Fields) :
      Watched (L.addStored key f).2 (L.watch (L.addStored key f).2 p)
  | count {L : Layout} {p : Picture} (h : Watched L p) (n : UInt64) :
      Watched { L with useCounter := n } p
  | elsewhere {L : Layout} {p : Picture} (h : Watched L p) (station : CommandStation)
      (notices : List Snapshot) : Watched { L with station := station, notices := notices } p

/-- The picture after a run of calls. -/
def pictureAfter (L : Layout) (p : Picture) : List Call → Picture
  | [] => p
  | c :: calls => (L.call c).2.pictureAfter (L.watch (L.call c).2 p) calls

theorem Watched.run (h : L.Watched p) (calls : List Call) :
    (L.run calls).Watched (L.pictureAfter p calls) := by
  induction calls generalizing L p with
  | nil => exact h
  | cons c calls ih => exact ih (h.call c)

/-- Whatever operations lead to can be watched. -/
theorem Reachable.watched (hL : L.Reachable) : ∃ p, L.Watched p := by
  induction hL with
  | start approach station => exact ⟨_, .start approach station⟩
  | call _ c ih =>
    obtain ⟨p, h⟩ := ih
    exact ⟨_, h.call c⟩
  | load _ s ih =>
    refine load_keeps (P := fun L => ∃ p, L.Watched p) ?_ ?_ s ih
    · rintro key f L ⟨p, h⟩
      exact ⟨_, h.addStored key f⟩
    · rintro n L ⟨p, h⟩
      exact ⟨_, h.count n⟩
  | elsewhere _ station notices ih =>
    obtain ⟨p, h⟩ := ih
    exact ⟨_, h.elsewhere station notices⟩

theorem Watched.addedInOrder (h : L.Watched p) : ∃ order, L.AddedInOrder order := by
  induction h with
  | start approach station => exact ⟨_, .start approach station⟩
  | call _ c ih =>
    obtain ⟨order, h⟩ := ih
    exact ⟨_, h.call c⟩
  | addStored _ key f ih =>
    obtain ⟨order, h⟩ := ih
    exact ⟨_, h.addStored key f⟩
  | count _ n ih =>
    obtain ⟨order, h⟩ := ih
    exact ⟨_, h.count n⟩
  | elsewhere _ station notices ih =>
    obtain ⟨order, h⟩ := ih
    exact ⟨_, h.elsewhere station notices⟩

theorem AddedInOrder.orderly {order : List RouteId} (h : L.AddedInOrder order) : L.Orderly where
  calm := h.linked.1.calm
  id_segment := h.id_segment

/-! ## One step -/

/-- The picture shows every segment that is registered, and shows it as it is. -/
def Depicted (L : Layout) (p : Picture) : Prop :=
  ∀ t g, L.segments.get? t = some g → ∃ s, p t = some s ∧ s.Depicts g

/-- **One operation** leaves whoever had the right picture with the right picture. -/
theorem Publishes.depicted {P : Deed → Prop} (h : L.Publishes P M)
    (hP : ∀ t l, ¬ P (.segment t (.unreserve l))) (hp : L.Depicted p) :
    M.Depicted (L.watch M p) := by
  intro t g' hg'
  cases h with
  | tells h =>
    cases h.told t with
    | absent _ hM _ => cases hM.symm.trans hg'
    | @called g hbegins calls hcalls hM hsent =>
      obtain rfl := Option.some.inj (hM.symm.trans hg')
      cases hbegins with
      | new c hc hnone =>
        exact ⟨_, by simp only [watch, hnone, hM], Segment.depicts_self _⟩
      | registered hg =>
        obtain ⟨s, hs, hdepicts⟩ := hp t g hg
        have hkeep : ∀ c ∈ calls, ∀ l, c ≠ .unreserve l := by
          rintro c hc l rfl
          exact hP t l (hcalls _ hc)
        refine ⟨_, ?_, Segment.depicts_run hdepicts hkeep⟩
        simp only [watch, hg, hM, hsent, hs]
        cases (g.told calls).getLast? <;> rfl
  | deletes t' hs hn =>
    rw [hs, Registry.get?_erase] at hg'
    split at hg'
    · cases hg'
    next ht =>
      have hnews : L.news M = [] := news_eq_nil hn
      obtain ⟨s, hpic, hdepicts⟩ := hp t g' hg'
      have hM : M.segments.get? t = some g' := by
        rw [hs, Registry.get?_erase, if_neg ht, hg']
      refine ⟨s, ?_, hdepicts⟩
      simp only [watch, hg', hM, hnews, hpic]
      rfl

theorem Watched.depicted (h : L.Watched p) : L.Depicted p := by
  induction h with
  | start approach station => exact fun _ _ hg => nomatch hg
  | call h c ih =>
    obtain ⟨order, horder⟩ := h.addedInOrder
    exact (publishes_call horder.linked.1 horder.orderly c).depicted
      (fun _ _ => Call.Causes.ne_unreserve) ih
  | addStored h key f ih =>
    obtain ⟨order, horder⟩ := h.addedInOrder
    exact (Publishes.tells (tells_addStored horder.orderly key f)).depicted
      (fun _ _ => LoadCauses.ne_unreserve) ih
  | count _ _ ih => exact ih
  | elsewhere _ _ _ ih => exact ih

/-! ## Every notice -/

/-- What was sent between `L` and `M` came on top of what had been sent before, and
every notice shows its segment as it was when the call that sent it had ended. It is one
of the calls that `P` admits, and these have led from the segment in `L`, or from a new
one, to the segment in `M`. -/
structure Sends (P : Deed → Prop) (L M : Layout) : Prop where
  kept : M.notices = L.notices ++ L.news M
  shown : ∀ s ∈ L.news M, ∃ g before c after, L.Begins s.id g ∧
    (∀ c' ∈ before ++ c :: after, P (.segment s.id c')) ∧
    M.segments.get? s.id = some (g.run (before ++ c :: after)) ∧
    ((g.run before).call c).notice = some s ∧ s = ((g.run before).call c).segment.snapshot

variable {P : Deed → Prop}

theorem Tells.sends (h : L.Tells P M) : L.Sends P M := by
  refine ⟨h.kept, fun s hs => ?_⟩
  have habout : s ∈ about s.id (L.news M) := List.mem_filter.2 ⟨hs, decide_eq_true rfl⟩
  cases h.told s.id with
  | absent _ _ hsent =>
    rw [hsent] at habout
    cases habout
  | @called g hbegins calls hcalls hM hsent =>
    rw [hsent] at habout
    obtain ⟨before, c, after, rfl, hn⟩ := Segment.exists_of_mem_told habout
    exact ⟨g, before, c, after, hbegins, hcalls, hM, hn, Segment.notice_call hn⟩

theorem Publishes.sends (h : L.Publishes P M) : L.Sends P M := by
  cases h with
  | tells h => exact h.sends
  | deletes t hs hn =>
    have hnews : L.news M = [] := news_eq_nil hn
    refine ⟨by rw [hnews, hn, List.append_nil], fun s hmem => ?_⟩
    rw [hnews] at hmem
    cases hmem

/-- **Observers have the right picture.** Of every segment that is registered after any
operations, an observer has a snapshot: the last one that was sent since the segment
was added, or else the one from when it was added. It agrees with the segment as it is,
except that a segment which it shows as free may be reserved. And every notice that an
operation or loading sends shows its segment as the call that sent it left the
segment. -/
theorem observers_have_right_picture (hL : L.Reachable) :
    (∃ p, L.Watched p) ∧
    (∀ p, L.Watched p → ∀ t g, L.segments.get? t = some g →
      ∃ s, p t = some s ∧ s.Depicts g) ∧
    (∀ c : Call, L.Sends c.Causes (L.call c).2) ∧
    ∀ {σ : Type} [Store σ] (store : σ), L.Sends LoadCauses (L.load store).2 := by
  obtain ⟨order, horder⟩ := hL.addedInOrder
  refine ⟨hL.watched, fun p h => h.depicted, fun c => ?_, fun store => ?_⟩
  · exact (publishes_call hL.sound horder.orderly c).sends
  · exact (tells_load horder.orderly store).sends

/-- A reservation that nobody was told about: the observer has the second segment as it
was when it was added. A new configuration then turns and closes it, of which observers
are told in two notices. -/
theorem observers_have_right_picture_of_silent_reservation :
    let calls : List Call :=
      [.addSegment { id := ⟨1⟩, name := "T1", length := 1 },
       .addSegment { id := ⟨2⟩, name := "T2", length := 1 },
       .reserve ⟨1⟩ ⟨7⟩, .lock ⟨1⟩ ⟨7⟩, .reserve ⟨2⟩ ⟨7⟩]
    let L := empty.run calls
    let p := empty.pictureAfter (fun _ => none) calls
    let next : Call := .updateSegment
      { id := ⟨2⟩, name := "T2", length := 1, orientation := .left, blocked := true }
    let M := (L.call next).2
    (p ⟨2⟩).map Snapshot.lock = some .free ∧
      (L.segments.get? ⟨2⟩).map Segment.lock = some (.reserved ⟨7⟩) ∧
      (∃ s g, p ⟨2⟩ = some s ∧ L.segments.get? ⟨2⟩ = some g ∧ s.Depicts g) ∧
      (L.news M).map (fun s => (s.id, s.orientation, s.blocked)) =
        [(⟨2⟩, .left, false), (⟨2⟩, .left, true)] ∧ L.Sends next.Causes M := by
  intro calls L p next M
  have hL : L.Reachable := (Reachable.start .doNotCare .silent).run calls
  have hp : L.Watched p := (Watched.start .doNotCare .silent).run calls
  obtain ⟨-, hpicture, hsends, -⟩ := observers_have_right_picture hL
  have hsome : (L.segments.get? ⟨2⟩).isSome := by decide
  obtain ⟨g, hg⟩ := Option.isSome_iff_exists.1 hsome
  obtain ⟨s, hs, hdepicts⟩ := hpicture p hp ⟨2⟩ g hg
  exact ⟨by decide, by decide, ⟨s, g, hs, hg, hdepicts⟩, by decide, hsends _⟩

end Interlocking.Layout
