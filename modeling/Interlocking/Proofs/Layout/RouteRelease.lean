/-
Releasing a route, in every layout that operations lead to.

Releasing goes through the items of the route and gives up what the loco holds of
them. An item may come again on the route; giving a thing up a second time makes no
difference, so what becomes of a thing is told by whether the route runs over it
(`GivenUp`). The destination is no item of its own, and it stays with the loco unless
the route runs over it on the way.
-/
import Interlocking.Proofs.Layout.References

set_option autoImplicit false

namespace Interlocking

/-! ## One thing -/

/-- The segment after a loco has given it up, if it is the loco that holds it. An
occupied segment that puts releases off keeps its lock and remembers the loco. -/
def Segment.givenUp (l : LocoId) (g : Segment) : Segment :=
  if g.lock.holder? ≠ some l then g
  else if g.releaseWhenFree = true ∧ g.occupancy = .occupied then
    { g with pendingRelease := some l }
  else { g with lock := .free, pendingRelease := none, occupancyDelayed := g.occupancy }

/-- The accessory after a loco has given it up, if it is the loco that holds it. -/
def Accessory.givenUp (l : LocoId) (a : Accessory) : Accessory :=
  if a.lock.holder? = some l then { a with lock := .free } else a

namespace Segment

variable {l : LocoId} {g : Segment}

theorem givenUp_of_not_holder (h : g.lock.holder? ≠ some l) : g.givenUp l = g := if_pos h

theorem givenUp_of_putOff (h : g.lock.holder? = some l)
    (hoff : g.releaseWhenFree = true ∧ g.occupancy = .occupied) :
    g.givenUp l = { g with pendingRelease := some l } := by
  rw [givenUp, if_neg (not_not_intro h), if_pos hoff]

theorem givenUp_of_not_putOff (h : g.lock.holder? = some l)
    (hoff : ¬ (g.releaseWhenFree = true ∧ g.occupancy = .occupied)) :
    g.givenUp l =
      { g with lock := .free, pendingRelease := none, occupancyDelayed := g.occupancy } := by
  rw [givenUp, if_neg (not_not_intro h), if_neg hoff]

/-- A segment that nobody holds shows the occupancy that it has. -/
theorem segment_release (l : LocoId) (g : Segment) : (g.release l).segment = g.givenUp l := by
  by_cases h : g.lock.holder? = some l
  · rw [release, if_neg (not_not_intro h)]
    by_cases hoff : g.releaseWhenFree = true ∧ g.occupancy = .occupied
    · rw [givenUp_of_putOff h hoff, hoff.1, hoff.2]
      rfl
    · have hno : ¬ (g.releaseWhenFree && g.occupancy.isOccupied) = true := by
        rw [Bool.and_eq_true, isOccupied_eq_true_iff]
        exact hoff
      rw [givenUp_of_not_putOff h hoff, if_neg hno]
      simp only [publicly, refreshDelayed]
      cases g.occupancy <;> rfl
  · rw [release, if_pos h, givenUp_of_not_holder h]
    rfl

theorem givenUp_givenUp : (g.givenUp l).givenUp l = g.givenUp l := by
  by_cases h : g.lock.holder? = some l
  · by_cases hoff : g.releaseWhenFree = true ∧ g.occupancy = .occupied
    · rw [givenUp_of_putOff h hoff]
      exact givenUp_of_putOff h hoff
    · rw [givenUp_of_not_putOff h hoff]
      exact givenUp_of_not_holder nofun
  · rw [givenUp_of_not_holder h, givenUp_of_not_holder h]

/-- A loco that gives a segment up loses nothing of it exactly if it had nothing to
lose, or had put off the release before. -/
theorem lock_givenUp_eq_iff :
    (g.givenUp l).lock = g.lock ∧ (g.givenUp l).pendingRelease = g.pendingRelease ↔
      (g.lock.holder? = some l →
        g.releaseWhenFree = true ∧ g.occupancy = .occupied ∧ g.pendingRelease = some l) := by
  by_cases h : g.lock.holder? = some l
  · by_cases hoff : g.releaseWhenFree = true ∧ g.occupancy = .occupied
    · rw [givenUp_of_putOff h hoff]
      simp [h, hoff, eq_comm]
    · rw [givenUp_of_not_putOff h hoff]
      refine iff_of_false (fun hsame => ?_) fun hoff' => hoff ⟨(hoff' h).1, (hoff' h).2.1⟩
      exact Lock.ne_free_of_holder h hsame.1.symm
  · rw [givenUp_of_not_holder h]
    simp [h]

end Segment

theorem Accessory.call_release (l : LocoId) (a : Accessory) :
    (a.call (.release l)).2 = a.givenUp l := by
  simp only [call, step, Lock.release, givenUp]
  by_cases hl : a.lock.holder? = some l <;> simp [hl]

theorem Accessory.givenUp_givenUp {l : LocoId} {a : Accessory} :
    (a.givenUp l).givenUp l = a.givenUp l := by
  by_cases h : a.lock.holder? = some l
  · have hfree : (a.givenUp l).lock = .free := by rw [givenUp, if_pos h]
    rw [givenUp, hfree, if_neg nofun]
  · rw [givenUp, givenUp, if_neg h, if_neg h]

namespace Layout

variable {L M N : Layout} {l : LocoId} {c : Claim} {cs : List Claim}

/-! ## One after another -/

/-- The layout after a loco has given up what it holds of some things. Nothing else
is different, but for the notices. -/
structure GivenUp (L : Layout) (l : LocoId) (cs : List Claim) (M : Layout) : Prop where
  segments : ∀ t, M.segments.get? t =
    (L.segments.get? t).map fun g => if .segment t ∈ cs then g.givenUp l else g
  accessories : ∀ id, M.accessories.get? id =
    (L.accessories.get? id).map fun a => if .accessory id ∈ cs then a.givenUp l else a
  rest : M = { L with
    segments := M.segments, accessories := M.accessories, notices := M.notices }

theorem GivenUp.nil : L.GivenUp l [] L where
  segments t := by simp
  accessories id := by simp
  rest := rfl

/-- What comes a second time is given up twice, which is as good as once. -/
theorem GivenUp.append {cs' : List Claim} (h : L.GivenUp l cs M) (h' : M.GivenUp l cs' N) :
    L.GivenUp l (cs ++ cs') N where
  segments t := by
    rw [h'.segments, h.segments, Option.map_map]
    congr 1
    funext g
    by_cases hcs : .segment t ∈ cs <;> by_cases hcs' : .segment t ∈ cs' <;>
      simp [hcs, hcs', Segment.givenUp_givenUp]
  accessories id := by
    rw [h'.accessories, h.accessories, Option.map_map]
    congr 1
    funext a
    by_cases hcs : .accessory id ∈ cs <;> by_cases hcs' : .accessory id ∈ cs' <;>
      simp [hcs, hcs', Accessory.givenUp_givenUp]
  rest := by rw [h'.rest, h.rest]

/-- Giving up a thing that the loco does not hold is doing nothing. -/
theorem givenUp_of_not_heldBy (h : ¬ L.HeldBy l c) : L.GivenUp l [c] L where
  segments t := by
    cases hg : L.segments.get? t with
    | none => rfl
    | some g =>
      rw [Option.map_some]
      split
      next hc =>
        have hl : g.lock.holder? ≠ some l := by
          intro hl
          rw [← List.mem_singleton.1 hc] at h
          exact h (heldBy_segment_iff.2 ⟨g, hg, hl⟩)
        rw [Segment.givenUp, if_pos hl]
      next => rfl
  accessories id := by
    cases ha : L.accessories.get? id with
    | none => rfl
    | some a =>
      rw [Option.map_some]
      split
      next hc =>
        have hl : a.lock.holder? ≠ some l := by
          intro hl
          rw [← List.mem_singleton.1 hc] at h
          exact h (heldBy_accessory_iff.2 ⟨a, ha, hl⟩)
        rw [Accessory.givenUp, if_neg hl]
      next => rfl
  rest := rfl

theorem givenUp_releaseClaim (hcalm : L.reaction = none) (l : LocoId) (c : Claim) :
    L.GivenUp l [c] (L.releaseClaim l c) := by
  obtain ⟨segments, accessories, notices, hrest⟩ := releaseClaim_eq hcalm l c
  refine ⟨fun t => ?_, fun id => ?_, by rw [hrest]⟩
  · cases c with
    | segment t' =>
      rw [releaseClaim, callSegment, get?_onSegment hcalm]
      congr 1
      funext g
      by_cases ht : t = t' <;> simp [ht, Segment.call, Segment.segment_release]
    | accessory id =>
      have hsame : (L.releaseClaim l (.accessory id)).segments = L.segments := by
        rw [releaseClaim, callAccessory]
        split <;> rfl
      rw [hsame]
      simp
  · cases c with
    | segment t' =>
      have hsame : (L.releaseClaim l (.segment t')).accessories = L.accessories := by
        obtain ⟨segments, notices, h⟩ :=
          onSegment_eq hcalm t' false fun g => g.call (.release l)
        rw [releaseClaim, callSegment, h]
      rw [hsame]
      simp
    | accessory id' =>
      rw [releaseClaim, callAccessory]
      split
      next hnone =>
        by_cases hid : id = id'
        · rw [hid, hnone]
          rfl
        · simp [hid]
      next a ha =>
        dsimp only
        rw [Registry.get?_insert, Accessory.call_release]
        by_cases hid : id = id'
        · subst hid
          simp [ha]
        · simp [hid]

/-- **Giving up one thing after another.** -/
theorem releaseHeld_givesUp (hcalm : L.reaction = none) (l : LocoId) (cs : List Claim) :
    L.GivenUp l cs (L.releaseHeld l cs) := by
  induction cs generalizing L with
  | nil => exact .nil
  | cons c cs ih =>
    have hfirst : L.GivenUp l [c] (if L.holds l c then L.releaseClaim l c else L) := by
      split
      · exact givenUp_releaseClaim hcalm l c
      next hno => exact givenUp_of_not_heldBy fun hheld => hno (holds_iff.2 hheld)
    rw [releaseHeld]
    generalize (if L.holds l c then L.releaseClaim l c else L) = M at hfirst
    have hcalmM : M.reaction = none := by
      rw [hfirst.rest]
      exact hcalm
    exact hfirst.append (ih hcalmM)

/-! ## The route -/

/-- **Releasing a route.** In every layout that operations lead to, a registered route
can be released by any loco, and the loco then has given up what it held of the
items, and nothing else has changed: an item that the loco held is free, but an
occupied segment that puts releases off keeps its lock and waits for the loco to
leave. The destination has the lock and the waiting release that it had, unless it
is one of the items itself and the loco holds it and has not put its release off
before. -/
theorem releaseRoute_exact (hL : L.Reachable) {r : RouteId} {route : Route}
    (hr : L.routes.get? r = some route) (l : LocoId) :
    (L.releaseRoute r l).1 = true ∧
    L.GivenUp l (route.config.items.map PathItem.claim) (L.releaseRoute r l).2 ∧
    ∀ g, L.segments.get? route.config.destination = some g →
      ∃ g', (L.releaseRoute r l).2.segments.get? route.config.destination = some g' ∧
        (g'.lock = g.lock ∧ g'.pendingRelease = g.pendingRelease ↔
          (.segment route.config.destination ∈ route.config.items → g.lock.holder? = some l →
            g.releaseWhenFree = true ∧ g.occupancy = .occupied ∧ g.pendingRelease = some l)) := by
  have hgiven := releaseHeld_givesUp hL.sound.calm l (route.config.items.map PathItem.claim)
  have hmem : ∀ t, .segment t ∈ route.config.items.map PathItem.claim ↔
      .segment t ∈ route.config.items := by
    intro t
    rw [List.mem_map]
    constructor
    · rintro ⟨item, hitem, hclaim⟩
      cases item <;> cases hclaim
      exact hitem
    · exact fun hitem => ⟨_, hitem, rfl⟩
  rw [hL.releaseRoute_eq hr l]
  refine ⟨rfl, hgiven, fun g hg => ⟨_, by rw [hgiven.segments, hg, Option.map_some], ?_⟩⟩
  by_cases hitem : .segment route.config.destination ∈ route.config.items
  · rw [if_pos ((hmem _).2 hitem), Segment.lock_givenUp_eq_iff]
    simp [hitem]
  · rw [if_neg (mt (hmem _).1 hitem)]
    simp [hitem]

/-- A route that runs over its items twice. The segment is occupied and puts releases
off, and the accessory is free afterwards; the destination is no item and stays
locked. -/
theorem releaseRoute_of_repeated_items :
    let config : RouteConfig :=
      { id := ⟨1⟩, name := "R1", origin := ⟨1⟩, destination := ⟨3⟩,
        items := [.segment ⟨2⟩, .accessory ⟨1⟩ .on, .segment ⟨2⟩, .accessory ⟨1⟩ .off] }
    let calls : List Call :=
      [.addSensor { id := ⟨1⟩, name := "S1", address := 1 },
       .addAccessory { id := ⟨1⟩, name := "A1", address := 1 },
       .addSegment { id := ⟨1⟩, name := "T1", length := 1, sensors := [] },
       .addSegment { id := ⟨2⟩, name := "T2", length := 1, sensors := [⟨1⟩], releaseWhenFree := true },
       .addSegment { id := ⟨3⟩, name := "T3", length := 1, sensors := [] },
       .addRoute config, .reserveRoute ⟨1⟩ ⟨7⟩, .lockRoute ⟨1⟩ ⟨7⟩, .setSensorState ⟨1⟩ .occupied]
    let L := empty.run calls
    let M := (L.releaseRoute ⟨1⟩ ⟨7⟩).2
    M.lockOf? (.segment ⟨2⟩) = some (.locked ⟨7⟩) ∧
      (M.segments.get? ⟨2⟩).map Segment.pendingRelease = some (some ⟨7⟩) ∧
      M.lockOf? (.accessory ⟨1⟩) = some .free ∧ M.lockOf? (.segment ⟨3⟩) = some (.locked ⟨7⟩) := by
  intro config calls L M
  have hL : L.Reachable := (Reachable.start .doNotCare .silent).run calls
  have hr : L.routes.get? ⟨1⟩ = some { config := config, lastUsed := 1 } := by decide
  obtain ⟨-, hgiven, -⟩ := releaseRoute_exact hL hr ⟨7⟩
  simp only [lockOf?, M]
  rw [hgiven.segments, hgiven.segments, hgiven.accessories]
  decide

/-- **The destination can be lost.** A route may run over its destination on the way,
and then releasing the route takes the destination from the loco. -/
theorem releaseRoute_frees_destination :
    let calls : List Call :=
      [.addSegment { id := ⟨1⟩, name := "T1", length := 1, sensors := [] },
       .addSegment { id := ⟨2⟩, name := "T2", length := 1, sensors := [] },
       .addRoute { id := ⟨1⟩, name := "R1", origin := ⟨1⟩, destination := ⟨2⟩,
                   items := [.segment ⟨2⟩] },
       .reserveRoute ⟨1⟩ ⟨7⟩, .lockRoute ⟨1⟩ ⟨7⟩]
    let L := empty.run calls
    L.lockOf? (.segment ⟨2⟩) = some (.locked ⟨7⟩) ∧ (L.releaseRoute ⟨1⟩ ⟨7⟩).1 = true ∧
      (L.releaseRoute ⟨1⟩ ⟨7⟩).2.lockOf? (.segment ⟨2⟩) = some .free := by
  decide

end Layout
end Interlocking
