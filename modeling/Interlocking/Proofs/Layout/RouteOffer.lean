/-
What is offered can be taken.

Selection only looks, and reservation takes one thing after another. They agree,
since taking one claim makes no other claim of the same loco harder to get: a
listed route can be reserved, and once it is reserved it can be locked. The other
way round, a route that suits the loco and is not listed has a claim that the loco
cannot have, so it is refused.

What becomes of the accessories depends on the command station. Selection asked
whether it speaks their protocols, so a dependable station takes every command.
-/
import Interlocking.Proofs.Layout.RouteExclusion
import Interlocking.Proofs.Layout.RouteSelection

set_option autoImplicit false

namespace Interlocking.Layout

variable {L M N : Layout} {l : LocoId} {r : RouteId} {c : RouteConfig}

/-! ## The commands of a route -/

/-- The output that the last item for an accessory asks for. -/
def lastOutput? (id : AccessoryId) (outputs : List (AccessoryId × Output)) : Option Output :=
  (outputs.filter fun x => decide (x.1 = id)).getLast?.map Prod.snd

theorem lastTaken_of_accepted {outputs : List (AccessoryId × Output)}
    {answers : List (Except CommandError Unit)} (hlength : answers.length = outputs.length)
    (haccepted : ∀ x ∈ answers, CommandStation.accepted x = true) (id : AccessoryId) :
    lastTaken id outputs answers = lastOutput? id outputs := by
  -- No answer is a refusal, so the answers sort nothing out.
  have hfilter : ((outputs.zip answers).filter fun x =>
      decide (x.1.1 = id) && CommandStation.accepted x.2) =
      (outputs.zip answers).filter ((fun x => decide (x.1 = id)) ∘ Prod.fst) := by
    refine List.filter_congr fun x hx => ?_
    rw [haccepted x.2 (List.of_mem_zip hx).2, Bool.and_true]
    rfl
  have hmap : ((outputs.zip answers).filter ((fun x => decide (x.1 = id)) ∘ Prod.fst)).map Prod.fst =
      outputs.filter fun x => decide (x.1 = id) := by
    rw [← List.filter_map, List.map_fst_zip (Nat.le_of_eq hlength.symm)]
  rw [lastTaken, hfilter, lastOutput?, ← hmap, List.getLast?_map, Option.map_map]
  rfl

theorem lastOutput?_of_mem {outputs : List (AccessoryId × Output)} {x : AccessoryId × Output}
    (hx : x ∈ outputs) : ∃ output, lastOutput? x.1 outputs = some output := by
  have hmem : x ∈ outputs.filter fun y => decide (y.1 = x.1) :=
    List.mem_filter.2 ⟨hx, decide_eq_true rfl⟩
  have hne := List.ne_nil_of_mem hmem
  rw [lastOutput?, List.getLast?_eq_some_getLast hne]
  exact ⟨_, rfl⟩

theorem supports_of_mem_commands (h : L.Spoken c) :
    ∀ x ∈ L.commands c.accessories, L.station.supports x.protocol = true := by
  intro x hx
  obtain ⟨y, hy, hcommand⟩ := List.mem_filterMap.1 hx
  obtain ⟨a, ha, rfl⟩ := Option.map_eq_some_iff.1 hcommand
  exact h y hy a ha

/-- A dependable station that speaks the protocols of a route sets all of its
accessories, and remembers it if it remembers anything. -/
theorem RouteLocked.of_dependable (h : L.RouteLocked r l c M)
    (hheld : ∀ x ∈ c.claims, L.HeldBy l x) (hstation : L.station.Dependable)
    (hspeaks : ∀ x ∈ L.commands c.accessories, L.station.supports x.protocol = true) :
    (∀ x ∈ c.accessories, ∃ a, M.accessories.get? x.1 = some a ∧
        lastOutput? x.1 c.accessories = some a.config.output) ∧
      (L.station ≠ .silent → M.station.taken = L.station.taken ++ L.commands c.accessories) := by
  refine ⟨fun x hx => ?_, fun hlog => ?_⟩
  · have hlength : (L.station.sendAll (L.commands c.accessories)).1.length =
        c.accessories.length := by
      rw [CommandStation.length_sendAll, ← List.length_map (f := some), ← h.commands,
        List.length_map]
    obtain ⟨output, houtput⟩ := lastOutput?_of_mem hx
    obtain ⟨a, ha⟩ := Option.isSome_iff_exists.1 (registered_of_heldBy hheld x hx)
    refine ⟨_, by rw [h.accessories, ha, Option.map_some], ?_⟩
    rw [lastTaken_of_accepted hlength (hstation _ hspeaks), houtput]
    rfl
  · rw [h.station, hstation.taken_sendAll hlog hspeaks]

/-! ## Reserving and locking what is offered -/

theorem Granted.command? {cs : List Claim} (h : L.Granted l cs M) : M.command? = L.command? := by
  refine command?_congr fun id => ⟨_, h.accessories id, fun a => ?_⟩
  rw [Accessory.grantedTo]
  split
  · split <;> exact ⟨rfl, rfl⟩
  · exact ⟨rfl, rfl⟩

/-- What can be had is got. -/
theorem reserveRoute_of_obtainable (hL : L.Sound) {route : Route}
    (hr : L.routes.get? r = some route) (hclaims : ∀ x ∈ route.config.claims, L.Obtainable l x) :
    ∃ M, L.reserveRoute r l = (true, M) ∧ L.Granted l route.config.claims M := by
  have htakes := takesAll_reserveRoute hL hr l
  generalize L.reserveRoute r l = result at htakes
  cases htakes with
  | all _ hgranted => exact ⟨_, rfl, hgranted⟩
  | nothing hcs =>
    obtain ⟨x, hx, hno⟩ := hcs
    exact absurd (hclaims x hx) hno

/-- What was got is held, so it can be locked. -/
theorem lockRoute_of_granted (hL : L.Sound) {route : Route} (hr : L.routes.get? r = some route)
    (hclaims : ∀ x ∈ route.config.claims, L.Obtainable l x)
    (hM : L.Granted l route.config.claims M) :
    (∀ x ∈ route.config.claims, M.HeldBy l x) ∧
      ∃ N, M.lockRoute r l = (true, N) ∧ M.RouteLocked r l route.config N := by
  have hheld : ∀ x ∈ route.config.claims, M.HeldBy l x := fun x hx =>
    (hM.secures hL hclaims hx).heldBy
  have hcalm : M.reaction = none := (hM.sound hL hclaims).calm
  have hrM : M.routes.get? r = some route := by rw [hM.rest]; exact hr
  have hlocks := locksRoute_lockRoute hcalm hrM l
  generalize M.lockRoute r l = result at hlocks
  refine ⟨hheld, ?_⟩
  cases hlocks with
  | all _ hlocked => exact ⟨_, rfl, hlocked⟩
  | nothing hnot =>
    obtain ⟨x, hx, hno⟩ := hnot
    exact absurd (hheld x hx) hno

/-- **What is offered can be taken.** In every layout that operations lead to, a
loco can reserve each route that is listed for it, and lock it right afterwards;
then it has a lock on everything that the route claims. If the command station can
be relied on, each accessory of the route has the output of its last item, and the
log of the station has grown by the commands for the accessories, one for each, in
order. Conversely, a registered route that suits the loco and is not listed is
refused. -/
theorem selectRoutes_takeable [Shuffling] (hL : L.Reachable) (t : SegmentId) (l : LocoId)
    (turn : Bool) (asked : Approach) :
    (∀ r ∈ L.selectRoutes t l turn asked, ∃ route M N, L.routes.get? r = some route ∧
        L.reserveRoute r l = (true, M) ∧ M.lockRoute r l = (true, N) ∧
        (∀ x ∈ route.config.claims, N.lockOf? x = some (.locked l)) ∧
        (L.station.Dependable →
          (∀ x ∈ route.config.accessories, ∃ a, N.accessories.get? x.1 = some a ∧
            lastOutput? x.1 route.config.accessories = some a.config.output) ∧
          route.config.accessories.map L.command? =
            (L.commands route.config.accessories).map some ∧
          (L.station ≠ .silent →
            N.station.taken = L.station.taken ++ L.commands route.config.accessories))) ∧
      (∀ r route, L.routes.get? r = some route → L.Suits t l turn route.config →
        r ∉ L.selectRoutes t l turn asked → (L.reserveRoute r l).1 = false) := by
  obtain ⟨order, horder⟩ := hL.addedInOrder
  have hlinked := horder.linked.2
  refine ⟨fun r hr => ?_, fun r route hr hsuits hout => ?_⟩
  · obtain ⟨route, hroute, hsuits, hclaims⟩ := hlinked.mem_selectRoutes.1 hr
    obtain ⟨M, hM, hgranted⟩ := reserveRoute_of_obtainable hL.sound hroute hclaims
    obtain ⟨hheld, N, hN, hlocked⟩ := lockRoute_of_granted hL.sound hroute hclaims hgranted
    refine ⟨route, M, N, hroute, hM, hN, fun x hx => hlocked.lockOf? hx (hheld x hx), ?_⟩
    intro hdependable
    -- Reservation has changed neither the station nor what it is about to be sent.
    have hcommands : M.commands route.config.accessories = L.commands route.config.accessories := by
      rw [commands, hgranted.command?, commands]
    have hstation : M.station = L.station := by rw [hgranted.rest]
    have hspeaks : ∀ x ∈ M.commands route.config.accessories,
        M.station.supports x.protocol = true := by
      rw [hcommands, hstation]
      exact supports_of_mem_commands hsuits.spoken
    rw [← hstation] at hdependable ⊢
    obtain ⟨houtputs, hlog⟩ := hlocked.of_dependable hheld hdependable hspeaks
    rw [← hcommands, ← hgranted.command?]
    exact ⟨houtputs, hlocked.commands, hlog⟩
  · -- If it were reserved, all its claims could be had, and it would be listed.
    have htakes := takesAll_reserveRoute hL.sound hr l
    generalize L.reserveRoute r l = result at htakes
    cases htakes with
    | all hcs => exact absurd (hlinked.mem_selectRoutes.2 ⟨route, hr, hsuits, hcs⟩) hout
    | nothing => rfl

/-- A push-pull train may turn. It is about to give up a segment of a route that
sets one accessory twice; it is offered the route, gets it and locks it, and both
commands are in the log. The other route suits it, too, but ends on a closed
segment, and is refused. -/
theorem selectRoutes_takeable_on_log :
    let config : RouteConfig :=
      { id := ⟨1⟩, name := "R1", origin := ⟨1⟩, departure := .left, destination := ⟨3⟩,
        items := [.accessory ⟨1⟩ .on, .segment ⟨2⟩, .accessory ⟨1⟩ .off], trains := .only }
    let closed : RouteConfig :=
      { id := ⟨2⟩, name := "R2", origin := ⟨1⟩, destination := ⟨4⟩, maxTrainLength := 60 }
    let L := run { station := .recording [.sx] false [] }
      [.addSensor { id := ⟨1⟩, name := "S1", address := 1 },
       .addAccessory { id := ⟨1⟩, name := "A1", address := 10, protocol := .dcc },
       .addLoco { id := ⟨7⟩, name := "L7", length := 50, pushPull := true },
       .addSegment { id := ⟨1⟩, name := "T1", length := 1, sensors := [] },
       .addSegment { id := ⟨2⟩, name := "T2", length := 1, sensors := [⟨1⟩], releaseWhenFree := true },
       .addSegment { id := ⟨3⟩, name := "T3", length := 1, sensors := [] },
       .addSegment { id := ⟨4⟩, name := "T4", length := 1, sensors := [], blocked := true },
       .addRoute config, .addRoute closed,
       .setSensorState ⟨1⟩ .occupied, .reserve ⟨2⟩ ⟨7⟩, .release ⟨2⟩ ⟨7⟩]
    (∃ M N, L.reserveRoute ⟨1⟩ ⟨7⟩ = (true, M) ∧ M.lockRoute ⟨1⟩ ⟨7⟩ = (true, N) ∧
      (∀ x ∈ config.claims, N.lockOf? x = some (.locked ⟨7⟩)) ∧
      (∃ a, N.accessories.get? ⟨1⟩ = some a ∧ a.config.output = .off) ∧
      N.station.taken = [⟨.dcc, 10, .on⟩, ⟨.dcc, 10, .off⟩]) ∧
      (L.reserveRoute ⟨2⟩ ⟨7⟩).1 = false := by
  intro config closed L
  have hL : L.Reachable := (Reachable.start .doNotCare (.recording [.sx] false [])).run _
  obtain ⟨hlisted, hunlisted⟩ := selectRoutes_takeable hL ⟨1⟩ ⟨7⟩ true .doNotCare
  have hstation : L.station = .recording [.sx] false [] := by decide
  refine ⟨?_, ?_⟩
  · have hr : L.routes.get? ⟨1⟩ = some { config := config } := by decide
    obtain ⟨route, M, N, hroute, hM, hN, hlocked, hrest⟩ := hlisted ⟨1⟩ (by decide)
    obtain rfl := Option.some.inj (hr.symm.trans hroute)
    rw [hstation] at hrest
    obtain ⟨houtputs, -, hlog⟩ := hrest (CommandStation.dependable_recording _ _)
    obtain ⟨a, ha, houtput⟩ := houtputs (⟨1⟩, .off) (by decide)
    refine ⟨M, N, hM, hN, hlocked, ⟨a, ha, Option.some.inj (houtput.symm.trans (by decide))⟩, ?_⟩
    rw [hlog nofun]
    decide
  · have hr : L.routes.get? ⟨2⟩ = some { config := closed } := by decide
    have hloco : L.locos.get? ⟨7⟩ = some
        { id := ⟨7⟩, name := "L7", length := 50, pushPull := true } := by decide
    refine hunlisted ⟨2⟩ _ hr ⟨rfl, .inl rfl, ?_, ?_, ?_, ?_⟩ (by decide)
    · intro x hx
      cases hx
    · intro x hx
      obtain rfl := Option.some.inj (hloco.symm.trans hx)
      decide
    · intro honly
      cases honly
    · intro hno
      cases hno

end Interlocking.Layout
