/-
Taking the claims of a route, one after another.

The claims are taken in order, and the first that cannot be had ends the
attempt. What one step took is put back by one step, so a failed attempt leaves
the layout as it was (`takesAll`); the induction runs over the list and never
asks whether a thing is claimed twice. A thing that is claimed twice is there
to be taken a second time, because the loco holds it by then, and taking it a
second time changes nothing.

All of this needs a layout in which nobody interferes and whose segments are
right about their noted loco and their shown occupancy (`Sound`).
-/
import Interlocking.Layout.Claim
import Interlocking.Proofs.Accessory
import Interlocking.Proofs.Segment.Reservation

set_option autoImplicit false

namespace Interlocking.Layout

variable {L L' : Layout} {l : LocoId} {c c' : Claim} {cs : List Claim} {grant : Grant}

/-! ## Sound layouts -/

/-- No observer is about to interfere, and every segment came about by calls
none of which dropped a reservation. -/
structure Sound (L : Layout) : Prop where
  calm : L.reaction = none
  segments : ∀ t g, L.segments.get? t = some g → g.Ordinary

/-- Without a reaction, a notice is recorded and nothing else happens. -/
theorem notifyAll_of_calm (h : L.reaction = none) (notice : Option Snapshot) :
    L.notifyAll notice = { L with notices := L.notices ++ notice.toList } := by
  cases notice with
  | none =>
    rw [Option.toList_none, List.append_nil]
    rfl
  | some s => simp only [notifyAll, notify, record, h, Option.toList_some]

theorem Sound.insert (hL : L.Sound) (t : SegmentId) {g : Segment} (hg : g.Ordinary) :
    Sound { L with segments := L.segments.insert t g } := by
  refine ⟨hL.calm, fun t' g' h => ?_⟩
  rw [Registry.get?_insert] at h
  split at h
  · cases h
    exact hg
  · exact hL.segments t' g' h

/-! ## One claim -/

/-- Whether a loco gets the claimed thing if it asks for it. -/
def Obtainable (L : Layout) (l : LocoId) : Claim → Prop
  | .segment t => ∃ g, L.segments.get? t = some g ∧ g.Obtainable l
  | .accessory id => ∃ a, L.accessories.get? id = some a ∧ a.Obtainable l

theorem take_isSome_iff : (L.take l c).isSome = true ↔ L.Obtainable l c := by
  cases c with
  | segment t =>
    cases hg : L.segments.get? t with
    | none => simp [take, Obtainable, hg]
    | some g =>
      have h : (g.tryReserve l).isSome = true ↔ g.Obtainable l := Segment.tryReserve_isSome_iff
      cases hr : g.tryReserve l <;> simp_all [take, Obtainable]
  | accessory id =>
    cases ha : L.accessories.get? id with
    | none => simp [take, Obtainable, ha]
    | some a =>
      have h : (a.tryReserve l).isSome = true ↔ a.Obtainable l := Accessory.tryReserve_isSome_iff
      cases hr : a.tryReserve l <;> simp_all [take, Obtainable]

/-- What taking a claim does. -/
inductive Takes (L : Layout) (l : LocoId) : Claim → Grant → Layout → Prop where
  | segment {t : SegmentId} {g g' : Segment} {grant : Grant}
      (hg : L.segments.get? t = some g) (h : g.Takes l grant g') :
      Takes L l (.segment t) grant { L with segments := L.segments.insert t g' }
  | accessory {id : AccessoryId} {a a' : Accessory} {grant : Grant}
      (ha : L.accessories.get? id = some a) (h : a.Takes l grant a') :
      Takes L l (.accessory id) grant { L with accessories := L.accessories.insert id a' }

theorem takes_of_take (hL : L.Sound) (h : L.take l c = some (grant, L')) :
    L.Takes l c grant L' := by
  cases c with
  | segment t =>
    obtain ⟨g, hg, h⟩ := Option.bind_eq_some_iff.1 h
    obtain ⟨⟨grant', g'⟩, hr, h⟩ := Option.bind_eq_some_iff.1 h
    cases h
    exact .segment hg (Segment.takes_of_tryReserve (hL.segments t g hg) hr)
  | accessory id =>
    obtain ⟨a, ha, h⟩ := Option.bind_eq_some_iff.1 h
    obtain ⟨⟨grant', a'⟩, hr, h⟩ := Option.bind_eq_some_iff.1 h
    cases h
    exact .accessory ha (Accessory.takes_of_tryReserve hr)

/-- **Putting back** what was taken leaves the layout as it was before. -/
theorem putBack_of_takes (hL : L.Sound) (h : L.Takes l c grant L') :
    L'.putBack l c grant = L := by
  cases h with
  | @segment t g g' grant hg h =>
    have hord : g.Ordinary := hL.segments t g hg
    -- A kept segment was not changed; the other two are changed back.
    cases h with
    | new hl =>
      simp only [putBack, callSegment, onSegment, Registry.get?_insert_self,
        Segment.call_unreserve_of_new hord hl, Segment.silently, notifyAll,
        Registry.insert_insert, Registry.insert_eq_self hg]
    | held hl hp => simp only [putBack, Registry.insert_eq_self hg]
    | heldPendingCancelled hl hp =>
      simp only [putBack, onSegment, Registry.get?_insert_self,
        Segment.restorePendingRelease_of_cancelled hord hl hp, Segment.silently, notifyAll,
        Registry.insert_insert, Registry.insert_eq_self hg]
  | @accessory id a a' grant ha h =>
    cases h with
    | new hl =>
      simp only [putBack, callAccessory, Registry.get?_insert_self,
        Accessory.call_unreserve_of_new hl, Registry.insert_insert, Registry.insert_eq_self ha]
    | held hl => simp only [putBack, Registry.insert_eq_self ha]

/-! ## What was taken -/

/-- The layout after a loco has got some claims: each claimed thing is granted to
the loco, and everything else is as before, the notices included. -/
structure Granted (L : Layout) (l : LocoId) (cs : List Claim) (L' : Layout) : Prop where
  segments : ∀ t, L'.segments.get? t =
    (L.segments.get? t).map fun g => if .segment t ∈ cs then g.grantedTo l else g
  accessories : ∀ id, L'.accessories.get? id =
    (L.accessories.get? id).map fun a => if .accessory id ∈ cs then a.grantedTo l else a
  rest : L' = { L with segments := L'.segments, accessories := L'.accessories }

theorem Granted.nil : L.Granted l [] L where
  segments t := by simp
  accessories id := by simp
  rest := rfl

theorem Takes.granted (h : L.Takes l c grant L') : L.Granted l [c] L' := by
  cases h with
  | @segment t g g' grant hg h =>
    refine ⟨fun t' => ?_, fun id => by simp, rfl⟩
    rw [Registry.get?_insert]
    by_cases ht : t' = t
    · subst ht
      simp [hg, h.eq_grantedTo]
    · simp [ht]
  | @accessory id a a' grant ha h =>
    refine ⟨fun t => by simp, fun id' => ?_, rfl⟩
    rw [Registry.get?_insert]
    by_cases hid : id' = id
    · subst hid
      simp [ha, h.eq_grantedTo]
    · simp [hid]

theorem Granted.cons {M : Layout} (hL : L.Sound) (h : L.Granted l [c] M)
    (hs : M.Granted l cs L') : L.Granted l (c :: cs) L' := by
  refine ⟨fun t => ?_, fun id => ?_, ?_⟩
  · rw [hs.segments, h.segments]
    cases hg : L.segments.get? t with
    | none => rfl
    | some g =>
      -- A segment that is among both is granted twice, which is as good as once.
      have htwice := Segment.grantedTo_grantedTo (l := l) (hL.segments t g hg)
      by_cases hc : .segment t = c <;> by_cases hcs : .segment t ∈ cs <;>
        simp [hc, hcs, htwice]
  · rw [hs.accessories, h.accessories]
    cases ha : L.accessories.get? id with
    | none => rfl
    | some a =>
      have htwice := Accessory.grantedTo_grantedTo (a := a) (l := l)
      by_cases hc : .accessory id = c <;> by_cases hcs : .accessory id ∈ cs <;>
        simp [hc, hcs, htwice]
  · rw [hs.rest, h.rest]

/-- Taking what can be had makes nothing harder to get for the loco that takes,
and nothing easier. -/
theorem Granted.obtainable_iff (h : L.Granted l cs L') (hcs : ∀ c ∈ cs, L.Obtainable l c) :
    L'.Obtainable l c ↔ L.Obtainable l c := by
  by_cases hc : c ∈ cs
  · -- What was taken is held now, and could be had before.
    refine iff_of_true ?_ (hcs c hc)
    cases c with
    | segment t =>
      obtain ⟨g, hg, hobt⟩ := hcs _ hc
      refine ⟨g.grantedTo l, ?_, hobt.again⟩
      rw [h.segments, hg, Option.map_some, if_pos hc]
    | accessory id =>
      obtain ⟨a, ha, hobt⟩ := hcs _ hc
      refine ⟨a.grantedTo l, ?_, hobt.again⟩
      rw [h.accessories, ha, Option.map_some, if_pos hc]
  · cases c with
    | segment t =>
      have hsame : L'.segments.get? t = L.segments.get? t := by simp [h.segments, hc]
      simp only [Obtainable, hsame]
    | accessory id =>
      have hsame : L'.accessories.get? id = L.accessories.get? id := by simp [h.accessories, hc]
      simp only [Obtainable, hsame]

theorem Granted.sound (hL : L.Sound) (h : L.Granted l cs L')
    (hcs : ∀ c ∈ cs, L.Obtainable l c) : L'.Sound := by
  refine ⟨by rw [h.rest]; exact hL.calm, fun t g' hg' => ?_⟩
  rw [h.segments] at hg'
  obtain ⟨g, hg, rfl⟩ := Option.map_eq_some_iff.1 hg'
  split
  next hc =>
    obtain ⟨g₁, hg₁, hobt⟩ := hcs _ hc
    obtain rfl : g = g₁ := Option.some.inj (hg.symm.trans hg₁)
    exact (hL.segments t g hg).grantedTo hobt
  next => exact hL.segments t g hg

/-! ## All claims -/

/-- What comes of an attempt to take some claims: all of them, or nothing. -/
inductive TakesAll (L : Layout) (l : LocoId) (cs : List Claim) : Bool × Layout → Prop where
  | all {L' : Layout} (hcs : ∀ c ∈ cs, L.Obtainable l c) (h : L.Granted l cs L') :
      TakesAll L l cs (true, L')
  | nothing (hcs : ∃ c ∈ cs, ¬ L.Obtainable l c) : TakesAll L l cs (false, L)

/-- **All or nothing.** If one claim cannot be had, what was taken before it is
put back. -/
theorem takesAll (hL : L.Sound) (l : LocoId) (cs : List Claim) :
    L.TakesAll l cs (L.takeAll l cs) := by
  -- The rest is taken in a layout that has changed, so the statement is for all.
  induction cs generalizing L with
  | nil => exact .all (fun c hc => nomatch hc) .nil
  | cons c cs ih =>
    rw [takeAll]
    cases ht : L.take l c with
    | none =>
      refine .nothing ⟨c, List.mem_cons_self, fun hc => ?_⟩
      rw [← take_isSome_iff, ht] at hc
      cases hc
    | some p =>
      obtain ⟨grant, M⟩ := p
      have hc : L.Obtainable l c := by
        rw [← take_isSome_iff, ht]
        rfl
      have htakes : L.Takes l c grant M := takes_of_take hL ht
      have hfirst : L.Granted l [c] M := htakes.granted
      have hone : ∀ c' ∈ [c], L.Obtainable l c' := by
        intro c' hc'
        rwa [List.mem_singleton.1 hc']
      have hrest := ih (hfirst.sound hL hone)
      -- In that layout the same claims can be had as in this one.
      dsimp only
      generalize M.takeAll l cs = result at hrest
      cases hrest with
      | all hcs h =>
        refine .all (fun c' hc' => ?_) (hfirst.cons hL h)
        rcases List.mem_cons.1 hc' with rfl | hc'
        · exact hc
        · exact (hfirst.obtainable_iff hone).1 (hcs c' hc')
      | nothing hcs =>
        obtain ⟨c', hc', hno⟩ := hcs
        simp only [putBack_of_takes hL htakes]
        exact .nothing ⟨c', List.mem_cons_of_mem _ hc',
          fun hobt => hno ((hfirst.obtainable_iff hone).2 hobt)⟩

end Interlocking.Layout
