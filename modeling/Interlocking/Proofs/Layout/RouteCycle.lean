/-
A whole route, from reserving it to leaving its last segment.

A loco reserves a route that nobody holds anything of, locks it, runs it and releases
it, and then gives up the destination where it has arrived. What each of the four
operations does is known thing by thing (`Granted`, `RouteLocked`, `GivenUp`), and a
thing may come many times on the route, so the cycle is looked at thing by thing: free,
reserved, locked and free again.

Two things could stay behind on a segment. The note of a loco that waits to leave does
not, because a free segment has none in a layout that operations lead to. The shown
occupancy is brought up to date when the lock goes, and it was up to date before.
-/
import Interlocking.Proofs.Layout.RouteOffer
import Interlocking.Proofs.Layout.RouteRelease

set_option autoImplicit false

namespace Interlocking

/-! ## One thing -/

/-- Nobody holds the segment, it is open, and a release of it would not be put off. -/
structure Segment.Idle (g : Segment) : Prop where
  free : g.lock = .free
  unblocked : g.blocked = false
  leaves : ¬ (g.releaseWhenFree = true ∧ g.occupancy = .occupied)

namespace Segment

variable {g : Segment} {l : LocoId}

/-- What is shown of a segment that nobody holds is its occupancy. -/
theorem Ordinary.shown_of_free (hg : g.Ordinary) (hl : g.lock = .free) :
    g.occupancyDelayed = g.occupancy := by
  cases ho : g.occupancy with
  | free => exact hg.shownSound.unheld ho hl
  | occupied => exact hg.shownSound.occupied ho

theorem eq_of_parts {k : Lock} {p : Option LocoId} {o : Occupancy} (hlock : g.lock = k)
    (hpending : g.pendingRelease = p) (hshown : g.occupancyDelayed = o) :
    { g with lock := k, pendingRelease := p, occupancyDelayed := o } = g := by
  subst hlock hpending hshown
  rfl

/-- Reserved, locked and given up, an idle segment is what it was. -/
theorem Idle.cycle (h : g.Idle) (hg : g.Ordinary) :
    ((g.grantedTo l).lockedBy l).givenUp l = g := by
  have hheld : ((g.grantedTo l).lockedBy l).lock.holder? = some l := rfl
  rw [grantedTo_of_free h.free] at hheld ⊢
  rw [givenUp_of_not_putOff hheld h.leaves]
  exact eq_of_parts h.free (hg.pending_of_free h.free) (hg.shown_of_free h.free)

/-- A release is refused exactly if the loco does not hold the segment. -/
theorem answer_release (l : LocoId) (g : Segment) :
    (g.call (.release l)).answer = decide (g.lock.holder? = some l) := by
  show (g.release l).answer = _
  rw [release]
  split
  next hno => rw [decide_eq_false hno]; rfl
  next hheld =>
    rw [decide_eq_true (not_not.1 hheld)]
    split <;> rfl

end Segment

/-- The same for an accessory, which has another output now. -/
theorem Accessory.cycle {a : Accessory} (h : a.lock = .free) (l : LocoId) (o : Output) :
    (((a.grantedTo l).lockedBy l).setOutput o).givenUp l = a.setOutput o := by
  have hheld : (((a.grantedTo l).lockedBy l).setOutput o).lock.holder? = some l := rfl
  rw [givenUp, if_pos hheld, grantedTo, if_pos h, setOutput, setOutput, h]
  rfl

namespace Layout

variable {L L₁ L₂ L₃ M : Layout} {r : RouteId} {l : LocoId} {c : RouteConfig}

/-! ## The route -/

/-- Nobody holds anything that a route claims, and its segments are idle. -/
structure Idle (L : Layout) (c : RouteConfig) : Prop where
  segments : ∀ t g, .segment t ∈ c.claims → L.segments.get? t = some g → g.Idle
  accessories : ∀ id a, .accessory id ∈ c.claims → L.accessories.get? id = some a → a.lock = .free

/-- The layout after a loco has run a route and left it. Every segment and every sensor
is as before, and so are the locks of accessories. An accessory of the route has the
output in its last command that the station took, the route is stamped, the use is
counted, and the station and the observers have heard of it. -/
structure Cycled (L : Layout) (r : RouteId) (c : RouteConfig) (M : Layout) : Prop where
  segments : M.segments = L.segments
  sensors : M.sensors = L.sensors
  accessories : ∀ id, M.accessories.get? id = (L.accessories.get? id).map fun a =>
    a.setOutput ((lastTaken id c.accessories (L.station.sendAll (L.commands c.accessories)).1).getD
      a.config.output)
  others : ∀ id, id ∉ c.accessories.map Prod.fst → M.accessories.get? id = L.accessories.get? id
  routes : ∀ r', M.routes.get? r' =
    (L.routes.get? r').map fun x => if r' = r then { x with lastUsed := L.useCounter + 1 } else x
  useCounter : M.useCounter = L.useCounter + 1
  station : M.station = (L.station.sendAll (L.commands c.accessories)).2
  rest : M = { L with
    accessories := M.accessories, routes := M.routes, useCounter := M.useCounter
    station := M.station, notices := M.notices }

theorem Idle.obtainable (h : L.Idle c) (hknows : ∀ x ∈ c.claims, L.knows x = true) :
    ∀ x ∈ c.claims, L.Obtainable l x := by
  intro x hx
  cases x with
  | segment t =>
    obtain ⟨g, hg⟩ := Option.isSome_iff_exists.1 (hknows _ hx)
    have hidle := h.segments t g hx hg
    exact ⟨g, hg, hidle.unblocked, .inl hidle.free⟩
  | accessory id =>
    obtain ⟨a, ha⟩ := Option.isSome_iff_exists.1 (hknows _ hx)
    exact ⟨a, ha, .inl (h.accessories id a hx ha)⟩

/-- An accessory that no command was for keeps its output. -/
theorem lastTaken_of_not_mem {id : AccessoryId} {outputs : List (AccessoryId × Output)}
    (h : id ∉ outputs.map Prod.fst) (answers : List (Except CommandError Unit)) :
    lastTaken id outputs answers = none := by
  have hnone : ((outputs.zip answers).filter fun x =>
      decide (x.1.1 = id) && CommandStation.accepted x.2) = [] := by
    refine List.filter_eq_nil_iff.2 fun x hx => ?_
    have hne : x.1.1 ≠ id := by
      rintro rfl
      exact h (List.mem_map_of_mem (List.of_mem_zip hx).1)
    simp [hne]
  rw [lastTaken, hnone]
  rfl

theorem answer_onSegment {α : Type} {t : SegmentId} {g : Segment} (hg : L.segments.get? t = some g)
    (unknown : α) (change : Segment → Segment.Outcome α) :
    (L.onSegment t unknown change).1 = (change g).answer := by
  rw [onSegment, hg]

section Cycle

variable (hidle : L.Idle c) (h₁ : L.Granted l c.claims L₁) (h₂ : L₁.RouteLocked r l c L₂)
include hidle h₁ h₂

/-- A segment of the route on the way: it is locked, and giving it up would make it what
it was. -/
theorem Idle.segment_locked (hL : L.Sound) {t : SegmentId} {g : Segment}
    (ht : .segment t ∈ c.claims) (hg : L.segments.get? t = some g) :
    L₂.segments.get? t = some ((g.grantedTo l).lockedBy l) ∧
      ((g.grantedTo l).lockedBy l).givenUp l = g := by
  refine ⟨?_, (hidle.segments t g ht hg).cycle (hL.segments t g hg)⟩
  rw [h₂.segments, h₁.segments, hg, Option.map_some, Option.map_some, if_pos ht, if_pos ht]

theorem Idle.segments_cycled (hL : L.Sound) (h₃ : L₂.GivenUp l c.claims M) :
    M.segments = L.segments := by
  refine Registry.ext_get? fun t => ?_
  rw [h₃.segments]
  cases hg : L.segments.get? t with
  | none => rw [h₂.segments, h₁.segments, hg, Option.map_none, Option.map_none, Option.map_none]
  | some g =>
    by_cases ht : .segment t ∈ c.claims
    · obtain ⟨hlocked, hback⟩ := hidle.segment_locked h₁ h₂ hL ht hg
      rw [hlocked, Option.map_some, if_pos ht, hback]
    · rw [h₂.segments, h₁.segments, hg]
      simp only [Option.map_some, if_neg ht]

theorem Idle.accessories_cycled (h₃ : L₂.GivenUp l c.claims M) (id : AccessoryId) :
    M.accessories.get? id = (L.accessories.get? id).map fun a =>
      a.setOutput ((lastTaken id c.accessories
        (L.station.sendAll (L.commands c.accessories)).1).getD a.config.output) := by
  have hcommands : L₁.commands c.accessories = L.commands c.accessories := by
    rw [commands, h₁.command?, commands]
  have hstation : L₁.station = L.station := by rw [h₁.rest]
  rw [h₃.accessories, h₂.accessories, h₁.accessories, hcommands, hstation]
  generalize (L.station.sendAll (L.commands c.accessories)).1 = answers
  cases ha : L.accessories.get? id with
  | none => rfl
  | some a =>
    by_cases hid : .accessory id ∈ c.claims
    · have hfree := hidle.accessories id a hid ha
      have hconfig : (a.grantedTo l).config = a.config := by
        rw [Accessory.grantedTo, if_pos hfree]
      simp only [Option.map_some, if_pos hid]
      rw [Accessory.cycle hfree, hconfig]
    · simp only [Option.map_some, if_neg hid]

theorem Idle.cycled (hL : L.Sound) (h₃ : L₂.GivenUp l c.claims M) : L.Cycled r c M := by
  have hsegments := hidle.segments_cycled h₁ h₂ hL h₃
  have haccessories := hidle.accessories_cycled h₁ h₂ h₃
  have hcommands : L₁.commands c.accessories = L.commands c.accessories := by
    rw [commands, h₁.command?, commands]
  have hroutes : L₁.routes = L.routes := by rw [h₁.rest]
  have hcount : L₁.useCounter = L.useCounter := by rw [h₁.rest]
  have hstation : L₁.station = L.station := by rw [h₁.rest]
  have hroutes' : M.routes = L₂.routes := by rw [h₃.rest]
  have hcount' : M.useCounter = L₂.useCounter := by rw [h₃.rest]
  have hstation' : M.station = L₂.station := by rw [h₃.rest]
  exact {
    segments := hsegments
    sensors := by rw [h₃.rest, h₂.rest, h₁.rest]
    accessories := haccessories
    others := fun id hid => by
      rw [haccessories, lastTaken_of_not_mem hid]
      exact Option.map_id_apply
    routes := fun r' => by rw [hroutes', h₂.routes, hroutes, hcount]
    useCounter := by rw [hcount', h₂.useCounter, hcount]
    station := by rw [hstation', h₂.station, hcommands, hstation]
    rest := by rw [h₃.rest, h₂.rest, h₁.rest, ← hsegments] }

/-- The destination is the loco's until it gives it up, unless the route runs over it on
the way. -/
theorem Idle.answer_release (hL : L.Sound) {g : Segment}
    (hg : L.segments.get? c.destination = some g)
    (h₃ : L₂.GivenUp l (c.items.map PathItem.claim) L₃) :
    (L₃.callSegment c.destination (.release l)).1 = true ↔
      .segment c.destination ∉ c.items.map PathItem.claim := by
  have hclaim : .segment c.destination ∈ c.claims := List.mem_append_right _ (List.mem_singleton_self _)
  obtain ⟨hlocked, hback⟩ := hidle.segment_locked h₁ h₂ hL hclaim hg
  have hthere := h₃.segments c.destination
  rw [hlocked, Option.map_some] at hthere
  rw [callSegment, answer_onSegment hthere, Segment.answer_release, decide_eq_true_iff]
  split
  next hitem =>
    rw [hback, (hidle.segments _ g hclaim hg).free]
    exact iff_of_false (by simp) (not_not_intro hitem)
  next hitem => exact iff_of_true rfl hitem

end Cycle

/-- **A whole route** leaves nothing behind. In every layout that operations lead to, if
nobody holds anything that a registered route claims, and its segments are open and not
both occupied and putting releases off, then any loco can reserve the route, lock it,
release it and give up the destination. Afterwards every segment, sensor and lock is as
it was. Different are the outputs of the accessories on the route, the stamp of the
route and the count of uses. The last release is refused exactly if the route runs over
its destination on the way, and then the loco has given it up before. -/
theorem route_cycle_leaves_nothing (hL : L.Reachable) {route : Route}
    (hr : L.routes.get? r = some route) (hidle : L.Idle route.config) (l : LocoId) :
    ∃ L₁ L₂ L₃ M answer, L.reserveRoute r l = (true, L₁) ∧ L₁.lockRoute r l = (true, L₂) ∧
      L₂.releaseRoute r l = (true, L₃) ∧
      L₃.callSegment route.config.destination (.release l) = (answer, M) ∧
      (answer = true ↔
        .segment route.config.destination ∉ route.config.items.map PathItem.claim) ∧
      L.Cycled r route.config M := by
  have hknows := hL.knows_claims hr
  have hclaims := hidle.obtainable (l := l) hknows
  obtain ⟨L₁, hreserved, h₁⟩ := reserveRoute_of_obtainable hL.sound hr hclaims
  obtain ⟨-, L₂, hlocked, h₂⟩ := lockRoute_of_granted hL.sound hr hclaims h₁
  have hL₁ : L₁.Reachable := by
    have hnext := hL.call (.reserveRoute r l)
    rwa [call, hreserved] at hnext
  have hL₂ : L₂.Reachable := by
    have hnext := hL₁.call (.lockRoute r l)
    rwa [call, hlocked] at hnext
  have hr₂ : L₂.routes.get? r = some { route with lastUsed := L₁.useCounter + 1 } := by
    rw [h₂.routes, h₁.rest, hr, Option.map_some, if_pos rfl]
  have hreleased := hL₂.releaseRoute_eq hr₂ l
  have h₃ := releaseHeld_givesUp hL₂.sound.calm l (route.config.items.map PathItem.claim)
  generalize L₂.releaseHeld l (route.config.items.map PathItem.claim) = L₃ at hreleased h₃
  have hcalm : L₃.reaction = none := by
    rw [h₃.rest]
    exact hL₂.sound.calm
  -- The destination is given up like an item that comes last.
  have h₄ : L₂.GivenUp l route.config.claims
      (L₃.callSegment route.config.destination (.release l)).2 :=
    h₃.append (givenUp_releaseClaim hcalm l (.segment route.config.destination))
  obtain ⟨g, hg⟩ := Option.isSome_iff_exists.1
    (hknows (.segment route.config.destination)
      (List.mem_append_right _ (List.mem_singleton_self _)))
  exact ⟨L₁, L₂, L₃, _, _, hreserved, hlocked, hreleased, rfl,
    hidle.answer_release h₁ h₂ hL.sound hg h₃, hidle.cycled h₁ h₂ hL.sound h₄⟩

/-- A route that runs over a segment and an accessory twice and over its destination on
the way. One segment is occupied, and the segment in front of the route is another
loco's. The accessory has the output of its last item afterwards. -/
theorem route_cycle_leaves_nothing_of_repeated_items :
    let config : RouteConfig :=
      { id := ⟨1⟩, name := "R1", origin := ⟨1⟩, destination := ⟨3⟩,
        items := [.accessory ⟨1⟩ .off, .segment ⟨2⟩, .accessory ⟨1⟩ .on, .segment ⟨3⟩,
          .segment ⟨2⟩] }
    let L := empty.run
      [.addSensor { id := ⟨1⟩, name := "S1", address := 1 },
       .addAccessory { id := ⟨1⟩, name := "A1", address := 1 },
       .addSegment { id := ⟨1⟩, name := "T1", length := 1 },
       .addSegment { id := ⟨2⟩, name := "T2", length := 1, sensors := [⟨1⟩] },
       .addSegment { id := ⟨3⟩, name := "T3", length := 1, releaseWhenFree := true },
       .addRoute config, .setSensorState ⟨1⟩ .occupied, .reserve ⟨1⟩ ⟨8⟩]
    let M := L.run [.reserveRoute ⟨1⟩ ⟨7⟩, .lockRoute ⟨1⟩ ⟨7⟩, .releaseRoute ⟨1⟩ ⟨7⟩,
      .release ⟨3⟩ ⟨7⟩]
    L.Idle config ∧ M.segments = L.segments ∧ M.sensors = L.sensors ∧
      M.accessories.get? ⟨1⟩ = (L.accessories.get? ⟨1⟩).map (Accessory.setOutput .on) := by
  intro config L M
  have hL : L.Reachable := (Reachable.start .doNotCare .silent).run _
  have hr : L.routes.get? ⟨1⟩ = some { config := config } := by decide
  have hsegments : ∀ t ∈ [⟨2⟩, ⟨3⟩, ⟨2⟩, ⟨3⟩], ∀ g ∈ L.segments.get? t,
      g.lock = .free ∧ g.blocked = false ∧
        ¬ (g.releaseWhenFree = true ∧ g.occupancy = .occupied) := by decide
  have hidle : L.Idle config := by
    refine ⟨fun t g ht hg => ?_, fun id a hid ha => ?_⟩
    · have ht' : t ∈ [⟨2⟩, ⟨3⟩, ⟨2⟩, ⟨3⟩] := by
        simpa [config, RouteConfig.claims, PathItem.claim] using ht
      obtain ⟨hfree, hopen, hleaves⟩ := hsegments t ht' g hg
      exact ⟨hfree, hopen, hleaves⟩
    · have hid' : id = ⟨1⟩ := by
        simpa [config, RouteConfig.claims, PathItem.claim] using hid
      subst hid'
      have hfree : ∀ a ∈ L.accessories.get? ⟨1⟩, a.lock = .free := by decide
      exact hfree a ha
  obtain ⟨L₁, L₂, L₃, N, answer, hreserved, hlocked, hreleased, hleft, -, hcycled⟩ :=
    route_cycle_leaves_nothing hL hr hidle ⟨7⟩
  have hM : M = N := by
    simp only [M, run, List.foldl_cons, List.foldl_nil, call, answered, hreserved, hlocked,
      hreleased]
    exact congrArg Prod.snd hleft
  rw [hM]
  refine ⟨hidle, hcycled.segments, hcycled.sensors, ?_⟩
  rw [hcycled.accessories]
  decide

end Layout
end Interlocking
