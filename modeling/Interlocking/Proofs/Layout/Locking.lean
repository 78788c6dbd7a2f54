/-
Locking the claims of a route, and setting its accessories.

A loco that holds everything a route claims gets all of it locked. Locking one
thing takes nothing away from the loco, so what it holds at the start it still
holds when its turn comes, and nothing has to be taken back (`lockAll_of_held`).
A thing that is claimed twice is locked twice, which shows in the notices and
nowhere else.

The commands for the accessories are sent afterwards. They are told from the
layout before, because sending changes nothing that a command is made of; and
the output of an accessory is told from its last command that was taken
(`setAccessories_sends`).
-/
import Interlocking.Proofs.CommandStation
import Interlocking.Proofs.Layout.Reservation

set_option autoImplicit false

namespace Interlocking

/-! ## One thing -/

/-- The segment with a lock of the loco. -/
def Segment.lockedBy (l : LocoId) (g : Segment) : Segment := { g with lock := .locked l }

/-- The accessory with a lock of the loco. -/
def Accessory.lockedBy (l : LocoId) (a : Accessory) : Accessory := { a with lock := .locked l }

theorem Segment.tryLock_of_holder {g : Segment} {l : LocoId} (h : g.lock.holder? = some l) :
    g.tryLock l = publicly (some (decide (g.lock = .reserved l))) (g.lockedBy l) := by
  have hk : g.lock.lock l = some (.locked l) := Lock.lock_eq_some_iff.2 ⟨h, rfl⟩
  simp only [tryLock, hk, lockedBy]

theorem Accessory.tryLock_of_holder {a : Accessory} {l : LocoId} (h : a.lock.holder? = some l) :
    a.tryLock l = some (decide (a.lock = .reserved l), a.lockedBy l) := by
  have hk : a.lock.lock l = some (.locked l) := Lock.lock_eq_some_iff.2 ⟨h, rfl⟩
  rw [tryLock, hk]
  rfl

namespace Layout

variable {L M N : Layout} {l : LocoId} {c : Claim} {cs : List Claim}

/-- Whether a loco has the claimed thing reserved or locked. -/
def HeldBy (L : Layout) (l : LocoId) (c : Claim) : Prop :=
  L.lockOf? c = some (.reserved l) ∨ L.lockOf? c = some (.locked l)

theorem heldBy_iff : L.HeldBy l c ↔ ∃ k, L.lockOf? c = some k ∧ k.holder? = some l := by
  constructor
  · rintro (hk | hk)
    · exact ⟨_, hk, rfl⟩
    · exact ⟨_, hk, rfl⟩
  · rintro ⟨k, hk, hl⟩
    rcases Lock.holder?_eq_some_iff.1 hl with rfl | rfl
    · exact .inl hk
    · exact .inr hk

theorem holds_iff : L.holds l c = true ↔ L.HeldBy l c := by
  rw [holds, decide_eq_true_iff, Option.bind_eq_some_iff, heldBy_iff]

theorem heldBy_segment_iff {t : SegmentId} :
    L.HeldBy l (.segment t) ↔ ∃ g, L.segments.get? t = some g ∧ g.lock.holder? = some l := by
  simp [heldBy_iff, lockOf?]

theorem heldBy_accessory_iff {id : AccessoryId} :
    L.HeldBy l (.accessory id) ↔ ∃ a, L.accessories.get? id = some a ∧ a.lock.holder? = some l := by
  simp [heldBy_iff, lockOf?]

/-! ## What was locked -/

/-- What observers are told when the claimed thing is locked. Nobody is told
about accessories. -/
def lockNotice? (L : Layout) (l : LocoId) : Claim → Option Snapshot
  | .segment t => (L.segments.get? t).map fun g => (g.lockedBy l).snapshot
  | .accessory _ => none

/-- The layout after a loco has locked some claims: each claimed thing has a
lock of the loco, observers were told about the segments in order, and
everything else is as before. -/
structure Locked (L : Layout) (l : LocoId) (cs : List Claim) (M : Layout) : Prop where
  segments : ∀ t, M.segments.get? t =
    (L.segments.get? t).map fun g => if .segment t ∈ cs then g.lockedBy l else g
  accessories : ∀ id, M.accessories.get? id =
    (L.accessories.get? id).map fun a => if .accessory id ∈ cs then a.lockedBy l else a
  notices : M.notices = L.notices ++ cs.filterMap (L.lockNotice? l)
  rest : M = { L with segments := M.segments, accessories := M.accessories, notices := M.notices }

theorem Locked.nil : L.Locked l [] L where
  segments t := by simp
  accessories id := by simp
  notices := by simp
  rest := rfl

theorem lockClaim_of_held (hcalm : L.reaction = none) (h : L.HeldBy l c) :
    ∃ newly M, L.lockClaim l c = (some newly, M) ∧ L.Locked l [c] M := by
  cases c with
  | segment t =>
    obtain ⟨g, hg, hl⟩ := heldBy_segment_iff.1 h
    have hnext : Layout.reaction { L with segments := L.segments.insert t (g.lockedBy l) } = none :=
      hcalm
    refine ⟨decide (g.lock = .reserved l), Layout.record (g.lockedBy l).snapshot
      { L with segments := L.segments.insert t (g.lockedBy l) }, ?_, ?_⟩
    · rw [lockClaim, onSegment, hg]
      simp only [Segment.tryLock_of_holder hl, Segment.publicly, notifyAll_of_calm hnext]
      rfl
    · refine ⟨fun t' => ?_, fun id => by simp [record], ?_, rfl⟩
      · simp only [record, Registry.get?_insert]
        by_cases ht : t' = t
        · subst ht
          simp [hg]
        · simp [ht]
      · simp [record, lockNotice?, hg]
  | accessory id =>
    obtain ⟨a, ha, hl⟩ := heldBy_accessory_iff.1 h
    refine ⟨decide (a.lock = .reserved l),
      { L with accessories := L.accessories.insert id (a.lockedBy l) }, ?_, ?_⟩
    · rw [lockClaim, ha, Option.bind_some, Accessory.tryLock_of_holder hl]
    · refine ⟨fun t => by simp, fun id' => ?_, by simp [lockNotice?], rfl⟩
      simp only [Registry.get?_insert]
      by_cases hid : id' = id
      · subst hid
        simp [ha]
      · simp [hid]

theorem Locked.calm (h : L.Locked l cs M) (hcalm : L.reaction = none) : M.reaction = none := by
  rw [h.rest]
  exact hcalm

theorem Locked.heldBy (h : L.Locked l cs M) {c : Claim} (hc : L.HeldBy l c) : M.HeldBy l c := by
  cases c with
  | segment t =>
    obtain ⟨g, hg, hl⟩ := heldBy_segment_iff.1 hc
    refine heldBy_segment_iff.2 ⟨_, by rw [h.segments, hg]; rfl, ?_⟩
    split
    · rfl
    · exact hl
  | accessory id =>
    obtain ⟨a, ha, hl⟩ := heldBy_accessory_iff.1 hc
    refine heldBy_accessory_iff.2 ⟨_, by rw [h.accessories, ha]; rfl, ?_⟩
    split
    · rfl
    · exact hl

theorem Locked.lockNotice? (h : L.Locked l cs M) : M.lockNotice? l = L.lockNotice? l := by
  funext c
  cases c with
  | segment t =>
    simp only [Layout.lockNotice?, h.segments, Option.map_map]
    congr 1
    funext g
    simp only [Function.comp_apply]
    split <;> rfl
  | accessory id => rfl

theorem Locked.cons (h : L.Locked l [c] M) (hs : M.Locked l cs N) : L.Locked l (c :: cs) N := by
  refine ⟨fun t => ?_, fun id => ?_, ?_, ?_⟩
  · rw [hs.segments, h.segments, Option.map_map]
    congr 1
    funext g
    -- A segment that is among both is locked twice, which is as good as once.
    by_cases hc : .segment t = c <;> by_cases hcs : .segment t ∈ cs <;>
      simp [hc, hcs, Segment.lockedBy]
  · rw [hs.accessories, h.accessories, Option.map_map]
    congr 1
    funext a
    by_cases hc : .accessory id = c <;> by_cases hcs : .accessory id ∈ cs <;>
      simp [hc, hcs, Accessory.lockedBy]
  · rw [hs.notices, h.lockNotice?, h.notices, List.append_assoc, ← List.filterMap_append]
    rfl
  · rw [hs.rest, h.rest]

/-- **Locking what is held** succeeds, and nothing has to be taken back. -/
theorem lockAll_of_held (hcalm : L.reaction = none) (hheld : ∀ c ∈ cs, L.HeldBy l c) :
    ∃ M, L.lockAll l cs = (true, M) ∧ L.Locked l cs M := by
  -- The rest is locked in a layout that has changed, so the statement is for all.
  induction cs generalizing L with
  | nil => exact ⟨L, rfl, .nil⟩
  | cons c cs ih =>
    obtain ⟨newly, M, hone, hfirst⟩ := lockClaim_of_held hcalm (hheld c List.mem_cons_self)
    have hkept : ∀ c' ∈ cs, M.HeldBy l c' := by
      intro c' hc'
      exact hfirst.heldBy (hheld c' (List.mem_cons_of_mem _ hc'))
    obtain ⟨N, hall, hrest⟩ := ih (hfirst.calm hcalm) hkept
    refine ⟨N, ?_, hfirst.cons hrest⟩
    simp only [lockAll, hone, hall]

/-! ## What was commanded -/

/-- The command that puts a registered accessory into an output. -/
def command? (L : Layout) (x : AccessoryId × Output) : Option Command :=
  (L.accessories.get? x.1).map fun a =>
    { protocol := a.config.protocol, address := a.config.address, output := x.2 }

/-- The commands that put registered accessories into outputs, in order. -/
def commands (L : Layout) (outputs : List (AccessoryId × Output)) : List Command :=
  outputs.filterMap L.command?

/-- A command is made of the protocol and the address of the accessory, so a change
of anything else leaves the commands alone. -/
theorem command?_congr
    (h : ∀ id, ∃ f : Accessory → Accessory, M.accessories.get? id = (L.accessories.get? id).map f ∧
      ∀ a, (f a).config.protocol = a.config.protocol ∧ (f a).config.address = a.config.address) :
    M.command? = L.command? := by
  funext x
  obtain ⟨f, hf, hkept⟩ := h x.1
  rw [command?, command?, hf, Option.map_map]
  congr 1
  funext a
  rw [Function.comp_apply, (hkept a).1, (hkept a).2]

/-- The output in the last command for an accessory that was taken. -/
def lastTaken (id : AccessoryId) (outputs : List (AccessoryId × Output))
    (answers : List (Except CommandError Unit)) : Option Output :=
  ((outputs.zip answers).filter fun x =>
    decide (x.1.1 = id) && CommandStation.accepted x.2).getLast?.map fun x => x.1.2

theorem lastTaken_cons (id : AccessoryId) (x : AccessoryId × Output)
    (outputs : List (AccessoryId × Output)) (answer : Except CommandError Unit)
    (answers : List (Except CommandError Unit)) :
    lastTaken id (x :: outputs) (answer :: answers) =
      (lastTaken id outputs answers).or
        (if x.1 = id ∧ CommandStation.accepted answer = true then some x.2 else none) := by
  rw [lastTaken, List.zip_cons_cons, List.filter_cons]
  by_cases hx : x.1 = id ∧ CommandStation.accepted answer = true
  · rw [if_pos (by simpa using hx), if_pos hx, List.getLast?_cons, lastTaken]
    cases ((outputs.zip answers).filter fun x =>
      decide (x.1.1 = id) && CommandStation.accepted x.2).getLast? <;> rfl
  · rw [if_neg (by simpa using hx), if_neg hx, Option.or_none, lastTaken]

/-- The layout after the commands for some outputs were sent: each accessory has
the output in its last command that was taken, the station has had the commands
in order, and everything else is as before. -/
structure Sent (L : Layout) (outputs : List (AccessoryId × Output)) (M : Layout) : Prop where
  accessories : ∀ id, M.accessories.get? id = (L.accessories.get? id).map fun a =>
    a.setOutput ((lastTaken id outputs (L.station.sendAll (L.commands outputs)).1).getD
      a.config.output)
  station : M.station = (L.station.sendAll (L.commands outputs)).2
  rest : M = { L with accessories := M.accessories, station := M.station }

theorem map_command?_of_registered {outputs : List (AccessoryId × Output)}
    (h : ∀ x ∈ outputs, (L.accessories.get? x.1).isSome) :
    outputs.map L.command? = (L.commands outputs).map some := by
  induction outputs with
  | nil => rfl
  | cons x outputs ih =>
    obtain ⟨a, ha⟩ := Option.isSome_iff_exists.1 (h x List.mem_cons_self)
    have hrest := ih fun y hy => h y (List.mem_cons_of_mem _ hy)
    have hx : L.command? x = some
        { protocol := a.config.protocol, address := a.config.address, output := x.2 } := by
      rw [command?, ha]
      rfl
    rw [commands, List.filterMap_cons_some hx, List.map_cons, List.map_cons, hx, hrest, commands]

theorem Sent.nil : L.Sent [] L where
  accessories id := by simp [lastTaken, Accessory.setOutput]
  station := rfl
  rest := rfl

theorem commands_cons {id : AccessoryId} {a : Accessory} (ha : L.accessories.get? id = some a)
    (output : Output) (outputs : List (AccessoryId × Output)) :
    L.commands ((id, output) :: outputs) =
      { protocol := a.config.protocol, address := a.config.address, output := output } ::
        L.commands outputs := by
  have hx : L.command? (id, output) = some
      { protocol := a.config.protocol, address := a.config.address, output := output } := by
    rw [command?, ha]
    rfl
  rw [commands, List.filterMap_cons_some hx, commands]

theorem setAccessories_cons {id : AccessoryId} {a : Accessory}
    (ha : L.accessories.get? id = some a) (output : Output)
    (outputs : List (AccessoryId × Output)) :
    ∃ M, L.setAccessories ((id, output) :: outputs) = M.setAccessories outputs ∧
      L.Sent [(id, output)] M := by
  have hone := commands_cons ha output []
  cases hsend : L.station.send
      { protocol := a.config.protocol, address := a.config.address, output := output } with
  | mk answer S =>
    have hall : L.station.sendAll (L.commands [(id, output)]) = ([answer], S) := by
      rw [hone, CommandStation.sendAll, hsend]
      rfl
    -- The station has had the command either way; the output is recorded only if
    -- it was taken.
    cases answer with
    | ok _ =>
      refine ⟨{ L with station := S, accessories := L.accessories.insert id (a.setOutput output) },
        by simp only [setAccessories, ha, hsend], fun id' => ?_, ?_, rfl⟩
      · rw [hall, lastTaken_cons]
        simp only [Registry.get?_insert]
        by_cases hid : id' = id
        · subst hid
          simp [ha, lastTaken, CommandStation.accepted]
        · simp [hid, Ne.symm hid, lastTaken, Accessory.setOutput]
      · rw [hall]
    | error e =>
      refine ⟨{ L with station := S }, by simp only [setAccessories, ha, hsend],
        fun id' => ?_, ?_, rfl⟩
      · rw [hall, lastTaken_cons]
        simp [lastTaken, CommandStation.accepted, Accessory.setOutput]
      · rw [hall]

theorem Sent.command? {outputs : List (AccessoryId × Output)} (h : L.Sent outputs M) :
    M.command? = L.command? :=
  command?_congr fun id => ⟨_, h.accessories id, fun _ => ⟨rfl, rfl⟩⟩

theorem Sent.cons {id : AccessoryId} {a : Accessory} {output : Output}
    {outputs : List (AccessoryId × Output)} (ha : L.accessories.get? id = some a)
    (h : L.Sent [(id, output)] M) (hs : M.Sent outputs N) : L.Sent ((id, output) :: outputs) N := by
  have hsame : M.commands outputs = L.commands outputs := by
    rw [commands, h.command?, commands]
  have hstation : M.station = (L.station.send
      { protocol := a.config.protocol, address := a.config.address, output := output }).2 := by
    rw [h.station, commands_cons ha]
    rfl
  refine ⟨fun id' => ?_, ?_, ?_⟩
  · rw [hs.accessories, h.accessories, Option.map_map, commands_cons ha, commands_cons ha, hsame,
      hstation]
    congr 1
    funext b
    simp only [CommandStation.sendAll, Function.comp_apply, lastTaken_cons]
    -- The last command that was taken is a later one, or else the first.
    cases lastTaken id' outputs _ with
    | some o => rfl
    | none => rfl
  · rw [hs.station, hsame, hstation, commands_cons ha]
    rfl
  · rw [hs.rest, h.rest]

/-- **Setting accessories** sends one command after another, whatever the
answers are. -/
theorem setAccessories_sends {outputs : List (AccessoryId × Output)}
    (h : ∀ x ∈ outputs, (L.accessories.get? x.1).isSome) :
    L.Sent outputs (L.setAccessories outputs) := by
  induction outputs generalizing L with
  | nil => exact .nil
  | cons x outputs ih =>
    obtain ⟨a, ha⟩ := Option.isSome_iff_exists.1 (h x List.mem_cons_self)
    obtain ⟨M, hM, hfirst⟩ := setAccessories_cons ha x.2 outputs
    have hkept : ∀ y ∈ outputs, (M.accessories.get? y.1).isSome := by
      intro y hy
      rw [hfirst.accessories, Option.isSome_map]
      exact h y (List.mem_cons_of_mem _ hy)
    rw [hM]
    exact hfirst.cons ha (ih hkept)

/-! ## The whole route -/

/-- The layout after a loco has locked a route. Compared with the layout before,
the claimed things have locks of the loco; the station has had one command for
each accessory item, in order; the accessories have the outputs that the station
took last; the route is stamped with the count of uses, this one included; the
observers were told about the locked segments; and that is all. -/
structure RouteLocked (L : Layout) (r : RouteId) (l : LocoId) (c : RouteConfig) (M : Layout) :
    Prop where
  segments : ∀ t, M.segments.get? t =
    (L.segments.get? t).map fun g => if .segment t ∈ c.claims then g.lockedBy l else g
  accessories : ∀ id, M.accessories.get? id = (L.accessories.get? id).map fun a =>
    (if .accessory id ∈ c.claims then a.lockedBy l else a).setOutput
      ((lastTaken id c.accessories (L.station.sendAll (L.commands c.accessories)).1).getD
        a.config.output)
  commands : c.accessories.map L.command? = (L.commands c.accessories).map some
  station : M.station = (L.station.sendAll (L.commands c.accessories)).2
  routes : ∀ r', M.routes.get? r' =
    (L.routes.get? r').map fun x => if r' = r then { x with lastUsed := L.useCounter + 1 } else x
  useCounter : M.useCounter = L.useCounter + 1
  notices : M.notices = L.notices ++ c.claims.filterMap (L.lockNotice? l)
  rest : M = { L with
    segments := M.segments, accessories := M.accessories, station := M.station
    routes := M.routes, useCounter := M.useCounter, notices := M.notices }

theorem registered_of_heldBy {c : RouteConfig} (h : ∀ x ∈ c.claims, L.HeldBy l x) :
    ∀ x ∈ c.accessories, (L.accessories.get? x.1).isSome := by
  rintro ⟨id, output⟩ hx
  obtain ⟨item, hitem, hid⟩ := List.mem_filterMap.1 hx
  cases item with
  | segment t => cases hid
  | accessory id' output' =>
    cases hid
    have hclaim : Claim.accessory id ∈ c.claims :=
      List.mem_append_left _ (List.mem_map.2 ⟨_, hitem, rfl⟩)
    obtain ⟨a, ha, -⟩ := heldBy_accessory_iff.1 (h _ hclaim)
    rw [ha]
    rfl

theorem Locked.command? (h : L.Locked l cs M) : M.command? = L.command? := by
  refine command?_congr fun id => ⟨_, h.accessories id, fun a => ?_⟩
  split <;> exact ⟨rfl, rfl⟩

/-- Locking everything, setting the accessories and stamping the route, in this
order, is what it takes to lock a route. -/
theorem Locked.routeLocked {c : RouteConfig} {r : RouteId} (h : L.Locked l c.claims M)
    (hheld : ∀ x ∈ c.claims, L.HeldBy l x) :
    L.RouteLocked r l c ((M.setAccessories c.accessories).stampRoute r) := by
  -- Each step leaves alone what the next one goes by, so all of them can be told
  -- from the layout before.
  have hsame : M.commands c.accessories = L.commands c.accessories := by
    rw [Layout.commands, h.command?, Layout.commands]
  have hstation : M.station = L.station := by rw [h.rest]
  have hroutes : M.routes = L.routes := by rw [h.rest]
  have hcount : M.useCounter = L.useCounter := by rw [h.rest]
  have hsent : M.Sent c.accessories (M.setAccessories c.accessories) :=
    setAccessories_sends (registered_of_heldBy fun x hx => h.heldBy (hheld x hx))
  generalize M.setAccessories c.accessories = N at hsent
  have hN : N = { M with accessories := N.accessories, station := N.station } := hsent.rest
  have hNsegments : N.segments = M.segments := by rw [hN]
  have hNroutes : N.routes = M.routes := by rw [hN]
  have hNcount : N.useCounter = M.useCounter := by rw [hN]
  have hNnotices : N.notices = M.notices := by rw [hN]
  exact {
    segments := fun t => by rw [stampRoute, hNsegments, h.segments]
    accessories := fun id => by
      rw [stampRoute, hsent.accessories, h.accessories, Option.map_map, hsame, hstation]
      congr 1
      funext a
      simp only [Function.comp_apply]
      split <;> rfl
    commands := map_command?_of_registered (registered_of_heldBy hheld)
    station := by rw [stampRoute, hsent.station, hsame, hstation]
    routes := fun r' => by
      simp only [stampRoute, Registry.get?_modify, hNroutes, hroutes, hNcount, hcount]
      by_cases hr : r' = r <;> simp [hr]
    useCounter := by rw [stampRoute, hNcount, hcount]
    notices := by rw [stampRoute, hNnotices, h.notices]
    rest := by
      rw [stampRoute, hN, h.rest] }

theorem RouteLocked.lockOf? {r : RouteId} {c : RouteConfig} (h : L.RouteLocked r l c M)
    {x : Claim} (hx : x ∈ c.claims) (hheld : L.HeldBy l x) : M.lockOf? x = some (.locked l) := by
  cases x with
  | segment t =>
    obtain ⟨g, hg, -⟩ := heldBy_segment_iff.1 hheld
    rw [Layout.lockOf?, h.segments, hg, Option.map_some, if_pos hx]
    rfl
  | accessory id =>
    obtain ⟨a, ha, -⟩ := heldBy_accessory_iff.1 hheld
    rw [Layout.lockOf?, h.accessories, ha, Option.map_some, if_pos hx]
    rfl

/-- What comes of an attempt to lock a route: all of it, or nothing. -/
inductive LocksRoute (L : Layout) (r : RouteId) (l : LocoId) (c : RouteConfig) :
    Bool × Layout → Prop where
  | all {M : Layout} (hheld : ∀ x ∈ c.claims, L.HeldBy l x) (h : L.RouteLocked r l c M) :
      LocksRoute L r l c (true, M)
  | nothing (hnot : ∃ x ∈ c.claims, ¬ L.HeldBy l x) : LocksRoute L r l c (false, L)

/-- **Locking a route** locks all that it claims if the loco holds all of it, and
changes nothing otherwise. -/
theorem locksRoute_lockRoute (hcalm : L.reaction = none) {r : RouteId} {route : Route}
    (hr : L.routes.get? r = some route) (l : LocoId) :
    L.LocksRoute r l route.config (L.lockRoute r l) := by
  simp only [lockRoute, hr]
  split
  next hall =>
    have hheld : ∀ x ∈ route.config.claims, L.HeldBy l x := by
      intro x hx
      exact holds_iff.1 (List.all_eq_true.1 hall x hx)
    obtain ⟨M, hM, hlocked⟩ := lockAll_of_held hcalm hheld
    rw [hM]
    exact .all hheld (hlocked.routeLocked hheld)
  next hall =>
    rw [List.all_eq_true] at hall
    push Not at hall
    obtain ⟨x, hx, hno⟩ := hall
    exact .nothing ⟨x, hx, fun hheld => hno (holds_iff.2 hheld)⟩

end Layout
end Interlocking
