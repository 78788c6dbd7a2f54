/-
Sending several commands to a command station.

The layout sends the commands of a route one after another and goes on whatever
the answers are, so what a station makes of them is told by `sendAll`: an answer
for each command, and the station after the last one. The log of a station is
the part of this that can be looked at later. It grows by the commands that were
taken, in their order (`taken_sendAll`).

A station is dependable if it takes every command of a protocol that it speaks.
Both stations without devices are, unless a failure was asked for.
-/
import Interlocking.CommandStation

set_option autoImplicit false

namespace Interlocking.CommandStation

variable {S : CommandStation} {c : Command} {commands : List Command}

/-- Whether an answer says that the command was taken. -/
def accepted : Except CommandError Unit → Bool
  | .ok _ => true
  | .error _ => false

/-- Sends commands one after another: their answers, and the station after them. -/
def sendAll : List Command → CommandStation → List (Except CommandError Unit) × CommandStation
  | [], S => ([], S)
  | c :: commands, S =>
    let rest := sendAll commands (S.send c).2
    ((S.send c).1 :: rest.1, rest.2)

theorem length_sendAll (commands : List Command) (S : CommandStation) :
    (S.sendAll commands).1.length = commands.length := by
  induction commands generalizing S with
  | nil => rfl
  | cons c commands ih => rw [sendAll, List.length_cons, ih, List.length_cons]

/-! ## The log -/

theorem send_ne_silent (h : S ≠ .silent) : (S.send c).2 ≠ .silent := by
  cases S with
  | silent => exact absurd rfl h
  | recording unsupported failing taken =>
    rw [send]
    split
    · simp
    · split <;> simp
  | device lacks outcomes tried => simp [send]

/-- One command is added to the log if it is taken. -/
theorem taken_send (h : S ≠ .silent) :
    (S.send c).2.taken = S.taken ++ if accepted (S.send c).1 then [c] else [] := by
  cases S with
  | silent => exact absurd rfl h
  | recording unsupported failing taken =>
    by_cases hp : c.protocol ∈ unsupported
    · simp [send, hp, CommandStation.taken, accepted]
    · cases failing <;> simp [send, hp, CommandStation.taken, accepted]
  | device lacks outcomes tried =>
    cases ho : outcomes.head?.join <;>
      simp [send, ho, answer, CommandStation.taken, accepted, List.filter_append]

/-- **The log of a station.** It grows by the commands that were taken, in the
order in which they were sent. -/
theorem taken_sendAll (h : S ≠ .silent) :
    (S.sendAll commands).2.taken =
      S.taken ++ ((commands.zip (S.sendAll commands).1).filter fun x => accepted x.2).map Prod.fst := by
  induction commands generalizing S with
  | nil => simp [sendAll]
  | cons c commands ih =>
    have hrest := ih (send_ne_silent (c := c) h)
    rw [sendAll]
    dsimp only
    rw [hrest, taken_send h, List.append_assoc, List.zip_cons_cons, List.filter_cons]
    split <;> simp [*]

/-! ## Stations that can be relied on -/

/-- Whether the station takes every command of a protocol that it speaks, also
after other such commands. -/
def Dependable (S : CommandStation) : Prop :=
  ∀ commands : List Command, (∀ c ∈ commands, S.supports c.protocol = true) →
    ∀ answer ∈ (S.sendAll commands).1, accepted answer = true

theorem dependable_silent : Dependable .silent := by
  intro commands _
  induction commands with
  | nil => simp [sendAll]
  | cons c commands ih =>
    intro answer hanswer
    rcases List.mem_cons.1 hanswer with rfl | hrest
    · rfl
    · exact ih (by simp [supports]) answer hrest

theorem dependable_recording (unsupported : List Protocol) (taken : List Command) :
    Dependable (.recording unsupported false taken) := by
  intro commands hspoken
  induction commands generalizing taken with
  | nil => simp [sendAll]
  | cons c commands ih =>
    -- A command that is taken leaves a station of the same kind behind.
    have hc : c.protocol ∉ unsupported := by
      simpa [supports] using hspoken c List.mem_cons_self
    have hsend : send c (.recording unsupported false taken)
        = (.ok (), .recording unsupported false (taken ++ [c])) := by
      rw [send, if_neg hc, if_neg (by simp)]
    intro answer hanswer
    rw [sendAll, hsend] at hanswer
    rcases List.mem_cons.1 hanswer with rfl | hrest
    · rfl
    · refine ih (taken ++ [c]) (fun c' hc' => ?_) answer hrest
      exact hspoken c' (List.mem_cons_of_mem _ hc')

/-- The log of a dependable station grows by all commands of protocols that it
speaks. -/
theorem Dependable.taken_sendAll (hS : S.Dependable) (h : S ≠ .silent)
    (hspoken : ∀ c ∈ commands, S.supports c.protocol = true) :
    (S.sendAll commands).2.taken = S.taken ++ commands := by
  have hall : ∀ x ∈ commands.zip (S.sendAll commands).1, accepted x.2 = true := by
    intro x hx
    exact hS commands hspoken x.2 (List.of_mem_zip hx).2
  rw [CommandStation.taken_sendAll h, List.filter_eq_self.2 hall, List.map_fst_zip]
  exact Nat.le_of_eq (length_sendAll commands S).symm

end Interlocking.CommandStation
