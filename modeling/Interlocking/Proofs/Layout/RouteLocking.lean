/-
Locking a route, in every layout that operations lead to.

A route is locked as a whole or not at all, and it is the holder of everything
that the route claims who can lock it. Between the look at the claims and the
last lock nothing can get in the way, so the attempt never has to be undone.

What the command station answers has no part in this. It decides only which
outputs are recorded: of the commands for one accessory the last that was taken
counts, and if none was taken the accessory keeps the output that it had.
-/
import Interlocking.Proofs.Layout.Reachable

set_option autoImplicit false

namespace Interlocking.Layout

/-- **Locking a route.** A loco can lock a registered route exactly if it has
everything reserved or locked that the route claims, and then no claim slips away
while the claims are locked one by one. Afterwards all of them are locked, one
command for each accessory item has gone to the station, in order, the route has
the next count of uses for its stamp, and `RouteLocked` tells what little else is
different. A loco that cannot lock the route leaves everything as it was. The
count must not have come to its end. -/
theorem lockRoute_exact {L : Layout} (hL : L.Reachable)
    (hcount : L.useCounter.toNat < UInt64.size - 1) (r : RouteId) (l : LocoId) :
    ((L.lockRoute r l).1 = true ↔
        ∃ route, L.routes.get? r = some route ∧ ∀ x ∈ route.config.claims, L.HeldBy l x) ∧
      (∀ route, L.routes.get? r = some route → route.config.claims.all (L.holds l) = true →
        (L.lockAll l route.config.claims).1 = true) ∧
      (∀ route, L.routes.get? r = some route → (L.lockRoute r l).1 = true →
        (∀ x ∈ route.config.claims, (L.lockRoute r l).2.lockOf? x = some (.locked l)) ∧
          L.RouteLocked r l route.config (L.lockRoute r l).2 ∧
          (L.lockRoute r l).2.useCounter.toNat = L.useCounter.toNat + 1) ∧
      ((L.lockRoute r l).1 = false → (L.lockRoute r l).2 = L) := by
  have hcalm : L.reaction = none := hL.sound.calm
  have hnext : (L.useCounter + 1).toNat = L.useCounter.toNat + 1 := by
    rw [UInt64.size] at hcount
    rw [UInt64.toNat_add, UInt64.toNat_one]
    exact Nat.mod_eq_of_lt (by omega)
  have hrace : ∀ route, L.routes.get? r = some route →
      route.config.claims.all (L.holds l) = true → (L.lockAll l route.config.claims).1 = true := by
    intro route hr hall
    obtain ⟨M, hM, -⟩ := lockAll_of_held hcalm fun x hx =>
      holds_iff.1 (List.all_eq_true.1 hall x hx)
    rw [hM]
  cases hr : L.routes.get? r with
  | none =>
    have hnone : L.lockRoute r l = (false, L) := by rw [lockRoute, hr]
    rw [hnone]
    exact ⟨by simp, by simp, by simp, fun _ => rfl⟩
  | some route =>
    have hlocks := locksRoute_lockRoute hcalm hr l
    generalize L.lockRoute r l = result at hlocks
    refine ⟨?_, fun route' hr' => hrace route' (hr.trans hr'), ?_, ?_⟩
    · cases hlocks with
      | all hheld => exact iff_of_true rfl ⟨route, rfl, hheld⟩
      | nothing hnot =>
        obtain ⟨x, hx, hno⟩ := hnot
        refine iff_of_false Bool.false_ne_true ?_
        rintro ⟨route', hr', hheld⟩
        obtain rfl := Option.some.inj hr'
        exact hno (hheld x hx)
    · intro route' hr' hlocked
      obtain rfl := Option.some.inj hr'
      cases hlocks with
      | all hheld h =>
        exact ⟨fun x hx => h.lockOf? hx (hheld x hx), h, by rw [h.useCounter, hnext]⟩
      | nothing => cases hlocked
    · intro hrefused
      cases hlocks with
      | all => cases hrefused
      | nothing => rfl

/-- A station that takes the first of three commands. The first accessory is on
the route twice and keeps the output of the first command, since the third fails;
the second accessory keeps the output that it had. One segment was locked before,
and the rest was reserved. -/
theorem lockRoute_with_failing_commands :
    let config : RouteConfig :=
      { id := ⟨1⟩, name := "R1", origin := ⟨1⟩, destination := ⟨3⟩,
        items := [.accessory ⟨1⟩ .on, .segment ⟨2⟩, .accessory ⟨2⟩ .on, .accessory ⟨1⟩ .off] }
    let station := CommandStation.device [] [none, some .notConnected, some (.transmit "short")] []
    let L := run { station := station }
      [.addAccessory { id := ⟨1⟩, name := "A1", address := 10, protocol := .dcc },
       .addAccessory { id := ⟨2⟩, name := "A2", address := 20, protocol := .mm },
       .addSegment { id := ⟨1⟩, name := "T1", length := 1, sensors := [] },
       .addSegment { id := ⟨2⟩, name := "T2", length := 1, sensors := [] },
       .addSegment { id := ⟨3⟩, name := "T3", length := 1, sensors := [] },
       .addRoute config, .reserveRoute ⟨1⟩ ⟨7⟩, .lock ⟨2⟩ ⟨7⟩]
    let M := (L.lockRoute ⟨1⟩ ⟨7⟩).2
    (∀ x ∈ config.claims, M.lockOf? x = some (.locked ⟨7⟩)) ∧
      M.station = .device [] []
        [(⟨.dcc, 10, .on⟩, none), (⟨.mm, 20, .on⟩, some .notConnected),
         (⟨.dcc, 10, .off⟩, some (.transmit "short"))] ∧
      (M.accessories.get? ⟨1⟩).map (fun a => a.config.output) = some .on ∧
      (M.accessories.get? ⟨2⟩).map (fun a => a.config.output) = some .off ∧
      M.useCounter.toNat = 1 ∧ (L.lockRoute ⟨1⟩ ⟨8⟩).2 = L := by
  intro config station L M
  have hL : L.Reachable := (Reachable.start .doNotCare station).run _
  have hr : L.routes.get? ⟨1⟩ = some { config := config } := by decide
  obtain ⟨-, -, hlocked, -⟩ := lockRoute_exact hL (by decide) ⟨1⟩ ⟨7⟩
  obtain ⟨hclaims, hrest, hstamp⟩ := hlocked _ hr (by decide)
  obtain ⟨-, -, -, hrefused⟩ := lockRoute_exact hL (by decide) ⟨1⟩ ⟨8⟩
  refine ⟨hclaims, ?_, ?_, ?_, ?_, hrefused (by decide)⟩
  · rw [hrest.station]
    decide
  · rw [hrest.accessories]
    decide
  · rw [hrest.accessories]
    decide
  · rw [hstamp]
    decide

end Interlocking.Layout
