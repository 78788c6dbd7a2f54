/-
A request that is refused or declined changes nothing.

A request either leaves the layout as it is, or it carries out one operation that is
accepted, and then the response says so (`Settles`). So requests lead to no layouts that
operations do not lead to (`Served.reachable`), and a response with another status than
200, or with a command that was not accepted, tells that nothing has happened. What the
operations do when they are declined is known from them; here it is shown that nothing
is done between the operation and the response.

Only a place that takes commands is told anything, and such a place admits one method.
-/
import Interlocking.Proofs.Layout.Declining
import Interlocking.Proofs.Layout.History
import Interlocking.Web.Service

set_option autoImplicit false

namespace Interlocking.Web

variable {L M : Layout} {response : Response}

/-! ## Responses -/

/-- The response says that a command was not accepted. -/
def Response.Declines (r : Response) : Prop :=
  ∃ result, r.body = some ((Answer.form CommandResult.form).write
    (.ofData { accepted := false, result := result }))

theorem write_commandResult (c : CommandResult) :
    (Answer.form CommandResult.form).write (.ofData c) =
      .object [("success", .bool true),
        ("data", .object [("accepted", .bool c.accepted), ("result", .string c.result)])] := rfl

/-- A command that was accepted is not answered like one that was not. -/
theorem not_declines_outcome (action : String) : ¬ (Response.outcome true action).Declines := by
  rintro ⟨result, hbody⟩
  have hwritten := Option.some.inj hbody
  rw [write_commandResult, write_commandResult] at hwritten
  simp [CommandResult.ofOutcome] at hwritten

/-! ## Commands -/

/-- What comes of a request: the layout stays as it is, or an operation is carried out
and the response does not say that it was declined. -/
inductive Settles (L : Layout) : Response × Layout → Prop where
  | idle (response : Response) : Settles L (response, L)
  | accepted {response : Response} (c : Layout.Call) (hstatus : response.status = 200)
      (hyes : ¬ response.Declines) : Settles L (response, (L.call c).2)

theorem Settles.reachable (hL : L.Reachable) (h : Settles L (response, M)) : M.Reachable := by
  cases h with
  | idle => exact hL
  | accepted c => exact hL.call c

theorem Settles.unchanged (h : Settles L (response, M))
    (hno : response.status ≠ 200 ∨ response.Declines) : M = L := by
  cases h with
  | idle => rfl
  | accepted c hstatus hyes =>
    rcases hno with hother | hdeclines
    · exact absurd hstatus hother
    · exact absurd hdeclines hyes

theorem settles_outcome {result : Bool × Layout} (c : Layout.Call)
    (hc : L.call c = Layout.answered result) (hdeclines : L.Declines result) (action : String) :
    Settles L (.outcome result.1 action, result.2) := by
  obtain ⟨accepted, M⟩ := result
  cases accepted with
  | false =>
    rw [hdeclines rfl]
    exact .idle _
  | true =>
    obtain rfl : (L.call c).2 = M := congrArg Prod.snd hc
    exact .accepted c rfl (not_declines_outcome action)

theorem settles_carryOut {k : Kind} (id : Ident k) (registered : Bool) (action : String)
    {call : Layout → Bool × Layout} (c : Layout.Call) (hc : L.call c = Layout.answered (call L))
    (hdeclines : L.Declines (call L)) : Settles L (carryOut id registered action call L) := by
  unfold carryOut
  split
  · exact settles_outcome c hc hdeclines action
  · exact .idle _

theorem settles_takeReport (hL : L.Wired) (queue : ReportQueue) (s : SensorId)
    (state : Occupancy) : Settles L (takeReport queue s state L) := by
  cases queue with
  | absent =>
    exact settles_outcome (.setSensorState s state) rfl
      (Layout.declines_setSensorState hL s state) state.name
  | running => exact .accepted (.setSensorState s state) rfl (not_declines_outcome "queued")
  | stopped => exact .idle _

open Layout in
theorem settles_run [Shuffling] (hL : L.Reachable) (queue : ReportQueue) (c : Command) :
    Settles L (c.run queue L) := by
  cases c with
  | listSegments => exact .idle _
  | showSegment t =>
    rw [Command.run]
    split <;> exact .idle _
  | showRoutes t q =>
    rw [Command.run]
    split <;> exact .idle _
  | reserve t q =>
    rw [Command.run]
    split
    · exact settles_carryOut t _ _ (.reserveForce t q.loco) rfl (declines_callSegment t _)
    · exact settles_carryOut t _ _ (.reserve t q.loco) rfl (declines_callSegment t _)
  | lock t q =>
    rw [Command.run]
    exact settles_carryOut t _ _ (.lock t q.loco) rfl (declines_callSegment t _)
  | release t q =>
    rw [Command.run]
    split
    · exact settles_carryOut t _ _ (.releaseForce t q.loco) rfl (declines_callSegment t _)
    · exact settles_carryOut t _ _ (.release t q.loco) rfl (declines_callSegment t _)
  | setBlocked t q =>
    rw [Command.run]
    exact settles_carryOut t _ _ (.setBlocked t q.blocked) rfl (declines_callSegment t _)
  | reserveRoute r q =>
    rw [Command.run]
    exact settles_carryOut r _ _ (.reserveRoute r q.loco) rfl
      (declines_reserveRoute hL.sound r q.loco)
  | lockRoute r q =>
    rw [Command.run]
    exact settles_carryOut r _ _ (.lockRoute r q.loco) rfl (declines_lockRoute hL.sound r q.loco)
  | releaseRoute r q =>
    rw [Command.run]
    exact settles_carryOut r _ _ (.releaseRoute r q.loco) rfl (declines_releaseRoute r q.loco)
  | report s q =>
    rw [Command.run]
    split
    · exact settles_takeReport hL.wired queue s q.state
    · exact .idle _

/-! ## Requests -/

/-- A response without its body says nothing about a command. -/
theorem Settles.withoutBody (h : Settles L (response, M)) :
    Settles L ({ response with body := none }, M) := by
  cases h with
  | idle => exact .idle _
  | accepted c hstatus =>
    refine .accepted c hstatus fun hdeclines => ?_
    obtain ⟨result, hbody⟩ := hdeclines
    cases hbody

theorem Settles.openToAll (h : Settles L (response, M)) (b : Bool) :
    Settles L ({ response with openToAll := b }, M) := by
  cases h with
  | idle => exact .idle _
  | accepted c hstatus hyes => exact .accepted c hstatus hyes

theorem settles_serve [Shuffling] (hL : L.Reachable) (openToAll : Bool) (queue : ReportQueue)
    (r : Request) : Settles L (serve openToAll queue r L) := by
  have hhandled : Settles L (handle queue r L) := by
    unfold handle
    split
    next c _ =>
      have hrun := settles_run hL queue c
      generalize c.run queue L = result at hrun
      obtain ⟨response, M⟩ := result
      dsimp only
      split
      · exact hrun.withoutBody
      · exact hrun
    · exact .idle _
  unfold serve
  split
  · exact .idle _
  · generalize handle queue r L = result at hhandled
    exact hhandled.openToAll openToAll

/-- A place that is not asked by the method of commands answers a question. -/
theorem Place.answers_of_admits {p : Place} {method : String} (h : p.admits method = true)
    (hmethod : method ≠ "POST") : p.answers = true := by
  unfold admits at h
  split at h
  next hanswers => exact hanswers
  next => exact absurd (of_decide_eq_true h) hmethod

/-- A question changes nothing. -/
theorem run_of_answers [Shuffling] {r : Request} {p : Place} {c : Command}
    (h : r.commandAt p = .ok c) (hp : p.answers = true) (queue : ReportQueue) (L : Layout) :
    (c.run queue L).2 = L := by
  cases p with
  | segments =>
    cases h
    rfl
  | segment id =>
    simp only [Request.commandAt, bind, Except.bind, pure, Except.pure] at h
    split at h
    · cases h
    · cases h
      rw [Command.run]
      split <;> rfl
  | segmentRoutes id =>
    simp only [Request.commandAt, bind, Except.bind, pure, Except.pure] at h
    split at h
    · cases h
    · split at h
      · cases h
      · cases h
        rw [Command.run]
        split <;> rfl
  | segmentVerb | routeVerb | sensor => cases hp

theorem serve_of_not_post [Shuffling] (openToAll : Bool) (queue : ReportQueue) {r : Request}
    (hmethod : r.method ≠ "POST") (L : Layout) : (serve openToAll queue r L).2 = L := by
  unfold serve
  split
  · rfl
  show (handle queue r L).2 = L
  unfold handle
  split
  next c hc =>
    unfold Request.command at hc
    split at hc
    · cases hc
    split at hc
    next hadmits => exact run_of_answers hc (Place.answers_of_admits hadmits hmethod) queue L
    next => cases hc
  next => rfl

/-! ## Layouts that are served -/

/-- The layouts that operations and requests lead to. -/
inductive Served [Shuffling] : Layout → Prop where
  | start (approach : Approach) (station : CommandStation) :
      Served { defaultApproach := approach, station := station }
  | step {L : Layout} (hL : Served L) (next : Layout.Step) : Served (L.step next)
  | request {L : Layout} (hL : Served L) (openToAll : Bool) (queue : ReportQueue) (r : Request) :
      Served (serve openToAll queue r L).2

/-- Requests lead to no other layouts. -/
theorem Served.reachable [Shuffling] (hL : Served L) : L.Reachable := by
  induction hL with
  | start approach station => exact .start approach station
  | step _ next ih => exact ih.step next
  | request _ openToAll queue r ih => exact (settles_serve ih openToAll queue r).reachable ih

/-- **A refused request changes nothing.** Whatever the request and in whatever layout
that operations and requests lead to: if the status is not 200, or a command was not
accepted, then the layout is the one before, and nobody was sent a notice. A request with
any other method than that of commands never changes anything. -/
theorem refused_requests_change_nothing [Shuffling] (hL : Served L) (openToAll : Bool)
    (queue : ReportQueue) (r : Request) :
    ((serve openToAll queue r L).1.status ≠ 200 ∨ (serve openToAll queue r L).1.Declines →
      (serve openToAll queue r L).2 = L) ∧
    (r.method ≠ "POST" → (serve openToAll queue r L).2 = L) :=
  ⟨(settles_serve hL.reachable openToAll queue r).unchanged,
    fun hmethod => serve_of_not_post openToAll queue hmethod L⟩

/-- A request has reserved a segment for loco 7. Another one for loco 8 is declined. -/
theorem refused_requests_change_nothing_while_held :
    let request (body : String) : Request :=
      { method := "POST", target := "/api/tracks/1/reserve"
        contentType := some "application/json", body := body }
    let seven := request "\x7b\"loco\":7\x7d"
    let eight := request "\x7b\"loco\":8\x7d"
    let M := Layout.empty.step (.call (.addSegment { id := ⟨1⟩, name := "T", length := 1 }))
    let L := (serve true .absent seven M).2
    Served L ∧ L.lockOf? (.segment ⟨1⟩) = some (.reserved ⟨7⟩) ∧
      (serve true .absent eight L).1.Declines ∧
      (serve true .absent eight L).2 = L := by
  intro request seven eight M L
  have hM : Served M := (Served.start .doNotCare .silent).step _
  have hL : Served L := hM.request true .absent seven
  have hreserved : L = (M.call (.reserve ⟨1⟩ ⟨7⟩)).2 := by decide
  have hdeclines : (serve true .absent eight L).1.Declines := by
    refine ⟨"reserve_rejected", ?_⟩
    rw [hreserved]
    unfold M eight request
    rfl
  exact ⟨hL, by rw [hreserved]; decide, hdeclines,
    (refused_requests_change_nothing hL true .absent eight).1 (.inr hdeclines)⟩

end Interlocking.Web
