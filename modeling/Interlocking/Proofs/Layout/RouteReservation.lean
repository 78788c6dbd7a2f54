/-
Reserving a route.

A route is reserved as a whole or not at all. Which of the two can be told from
the layout before: it is reserved if each single thing that it claims could be
had. The things may be listed more than once, and the destination may be one of
them.
-/
import Interlocking.Proofs.Layout.Reachable

set_option autoImplicit false

namespace Interlocking.Layout

theorem knows_of_obtainable {L : Layout} {l : LocoId} {c : Claim} (h : L.Obtainable l c) :
    L.knows c = true := by
  cases c with
  | segment t =>
    obtain ⟨g, hg, -⟩ := h
    rw [knows, Registry.contains, hg]
    rfl
  | accessory id =>
    obtain ⟨a, ha, -⟩ := h
    rw [knows, Registry.contains, ha]
    rfl

/-- Reserving a route is taking its claims. -/
theorem takesAll_reserveRoute {L : Layout} (hL : L.Sound) {r : RouteId} {route : Route}
    (hr : L.routes.get? r = some route) (l : LocoId) :
    L.TakesAll l route.config.claims (L.reserveRoute r l) := by
  simp only [reserveRoute, hr]
  split
  · exact takesAll hL l _
  next hall =>
    -- A thing that is not registered is one that cannot be had.
    rw [List.all_eq_true] at hall
    push Not at hall
    obtain ⟨c, hc, hknows⟩ := hall
    exact .nothing ⟨c, hc, fun hobt => hknows (knows_of_obtainable hobt)⟩

/-- **Reserving a route is all or nothing.** In every layout that operations lead
to, a loco gets a route exactly if it can have each thing that the route claims:
a segment that is open, and free or its own, and an accessory that is free or
its own. It then has all of them, and nothing else is different; otherwise the
layout is as it was. -/
theorem reserveRoute_all_or_nothing {L : Layout} (hL : L.Reachable) {r : RouteId}
    {route : Route} (hr : L.routes.get? r = some route) (l : LocoId) :
    ((L.reserveRoute r l).1 = true ↔ ∀ c ∈ route.config.claims, L.Obtainable l c) ∧
      ((L.reserveRoute r l).1 = true → L.Granted l route.config.claims (L.reserveRoute r l).2) ∧
      ((L.reserveRoute r l).1 = false → (L.reserveRoute r l).2 = L) := by
  have htakes := takesAll_reserveRoute hL.sound hr l
  generalize L.reserveRoute r l = result at htakes
  cases htakes with
  | all hcs h => exact ⟨iff_of_true rfl hcs, fun _ => h, (nomatch ·)⟩
  | nothing hcs =>
    obtain ⟨c, hc, hno⟩ := hcs
    exact ⟨iff_of_false Bool.false_ne_true fun hall => hno (hall c hc), (nomatch ·), fun _ => rfl⟩

/-- A route that lists an accessory and a segment twice and runs over its own
destination. Loco 7 stands on the segment and is about to give it up; it gets
the route and stays. Loco 8 does not get the route, and the release of loco 7
goes on waiting. -/
theorem reserveRoute_of_repeated_claims :
    let config : RouteConfig :=
      { id := ⟨1⟩, name := "R1", origin := ⟨1⟩, destination := ⟨3⟩,
        items := [.accessory ⟨1⟩ .on, .segment ⟨2⟩, .accessory ⟨1⟩ .off, .segment ⟨3⟩,
          .segment ⟨2⟩] }
    let L := empty.run
      [.addSensor { id := ⟨1⟩, name := "S1", address := 1 },
       .addAccessory { id := ⟨1⟩, name := "A1", address := 1 },
       .addSegment { id := ⟨1⟩, name := "T1", length := 1, sensors := [] },
       .addSegment { id := ⟨2⟩, name := "T2", length := 1, sensors := [⟨1⟩], releaseWhenFree := true },
       .addSegment { id := ⟨3⟩, name := "T3", length := 1, sensors := [] },
       .addRoute config,
       .setSensorState ⟨1⟩ .occupied, .reserve ⟨2⟩ ⟨7⟩, .release ⟨2⟩ ⟨7⟩]
    (L.segments.get? ⟨2⟩).bind Segment.pendingRelease = some ⟨7⟩ ∧
      L.Granted ⟨7⟩ config.claims (L.reserveRoute ⟨1⟩ ⟨7⟩).2 ∧
      (∃ c ∈ config.claims, ¬ L.Obtainable ⟨8⟩ c) ∧ (L.reserveRoute ⟨1⟩ ⟨8⟩).2 = L := by
  intro config L
  have hL : L.Reachable := (Reachable.start .doNotCare .silent).run _
  have hr : L.routes.get? ⟨1⟩ = some { config := config } := by decide
  obtain ⟨-, htaken, -⟩ := reserveRoute_all_or_nothing hL hr ⟨7⟩
  obtain ⟨hiff, -, hleft⟩ := reserveRoute_all_or_nothing hL hr ⟨8⟩
  have hno : (L.reserveRoute ⟨1⟩ ⟨8⟩).1 = false := by decide
  refine ⟨by decide, htaken (by decide), ?_, hleft hno⟩
  by_contra hall
  push Not at hall
  exact Bool.false_ne_true (hno.symm.trans (hiff.2 hall))

end Interlocking.Layout
