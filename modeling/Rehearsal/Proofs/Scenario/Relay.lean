import Rehearsal.Proofs.Scenario.StandIn

/-!
# Runners that share a stand-in

Fresh runners run one after another, each a scenario of its own, over the same stand-in. The
number of the call that is to fail counts from the beginning of the stand-in, not of a run,
and a run that fails makes fewer calls than it has. `relay_of_ahead` carries the number of
the calls so far from one run to the next: up to the run that has the failing call among its
own all are complete, that one ends with it, and behind it all are complete again.
-/

namespace Rehearsal

/-- What came of calls also stands in a journal, in order. -/
def Backend.journaled {β : Type} (inner : Backend β) : Backend (β × List Reply) where
  call memory resource action payload :=
    let (next, reply) := inner.call memory.1 resource action payload
    ((next, memory.2 ++ [reply]), reply)

namespace Backend

variable {β : Type} {backend : Backend β} {memory last : β} {calls : List Call}
variable {responses : List Json}

@[simp] theorem reply_journaled (backend : Backend β) (memory : β) (journal : List Reply)
    (c : Call) :
    backend.journaled.reply (memory, journal) c =
      (((backend.reply memory c).1, journal ++ [(backend.reply memory c).2]),
        (backend.reply memory c).2) := rfl

/-- Keeping a journal changes nothing else. -/
theorem Serves.journaled (h : backend.Serves memory calls responses last)
    (journal : List Reply) :
    backend.journaled.Serves (memory, journal) calls responses
      (last, journal ++ responses.map .response) := by
  induction h generalizing journal with
  | nil => simpa using Serves.nil
  | @cons memory next last c calls response responses head tail ih =>
    have step : backend.journaled.reply (memory, journal) c =
        ((next, journal ++ [.response response]), .response response) := by
      simp [head]
    have rest := ih (journal ++ [.response response])
    rw [List.append_assoc] at rest
    exact .cons step rest

end Backend

/-- A scenario that is to be run, and the times at which its run takes place. -/
structure Turn where
  scenario : Scenario
  timing : Timing

/-- What a runner leaves behind: the calls that it made, and its end. -/
structure Leg where
  issued : List ReceivedCall
  state : RunState
  outcome : Outcome

namespace Runner

open Backend

variable {β : Type} {backend : Backend β}

/-- The run of a fresh runner. -/
def leg (backend : Backend β) (memory : β) (turn : Turn) : Leg where
  issued := callsMade backend turn.timing memory turn.scenario
  state := (run backend turn.timing (fresh memory) turn.scenario).1.state
  outcome := (run backend turn.timing (fresh memory) turn.scenario).2

/-- One fresh runner after another over the same backend: what the backend is left with, and
what each runner leaves behind. -/
def relay (backend : Backend β) : β → List Turn → β × List Leg
  | memory, [] => (memory, [])
  | memory, turn :: turns =>
    let next := (run backend turn.timing (fresh memory) turn.scenario).1.memory
    ((relay backend next turns).1, leg backend memory turn :: (relay backend next turns).2)

/-- What every call keeps, making calls keeps. -/
theorem issue_preserves {P : β → Prop} (step : ∀ memory c, P memory → P (backend.reply memory c).1)
    (timing : Timing) (calls : List Call) (index : Nat) {memory : β} (h : P memory) :
    P (issue backend timing index memory calls).1 := by
  induction calls generalizing index memory with
  | nil => exact h
  | cons c calls ih =>
    have next := step memory c h
    rw [reply] at next
    rw [issue]
    generalize backend.call memory c.resource c.action c.payload = answer at next
    obtain ⟨after, _ | _ | _⟩ := answer
    · have rest := ih (index + 1) next
      simp only
      generalize issue backend timing (index + 1) after calls = issued at rest
      obtain ⟨last, _ | _ | _⟩ := issued <;> exact rest
    · exact next
    · exact next

/-- What every call keeps, a run keeps. -/
theorem run_preserves {P : β → Prop} (step : ∀ memory c, P memory → P (backend.reply memory c).1)
    (timing : Timing) (scenario : Scenario) {memory : β} (h : P memory) :
    P (run backend timing (fresh memory) scenario).1.memory := by
  have made := issue_preserves step timing scenario.calls 0 h
  rw [run, fresh, if_pos rfl]
  generalize issue backend timing 0 memory scenario.calls = issued at made
  obtain ⟨last, _ | _ | _⟩ := issued <;> exact made

/-- What every call keeps, runs one after another keep. -/
theorem relay_preserves {P : β → Prop}
    (step : ∀ memory c, P memory → P (backend.reply memory c).1) (turns : List Turn) {memory : β}
    (h : P memory) : P (relay backend memory turns).1 := by
  induction turns generalizing memory with
  | nil => exact h
  | cons turn turns ih => exact ih (run_preserves step turn.timing turn.scenario h)

end Runner

/-- A runner has made all calls of its scenario, and each was answered. -/
def Leg.Whole (turn : Turn) (leg : Leg) : Prop :=
  leg.state = .complete ∧ leg.issued = turn.scenario.calls.map Call.received ∧
    ∃ report, leg.outcome = .finished report

/-- A runner has made the calls of its scenario up to the call of a number, where `start`
calls came before the run, and has failed with that call. -/
def Leg.CutAt (number start : Nat) (turn : Turn) (leg : Leg) : Prop :=
  ∃ before c after, turn.scenario.calls = before ++ c :: after ∧
    start + before.length = number ∧
    leg.state = .failed ∧ leg.issued = (before ++ [c]).map Call.received ∧
    leg.outcome = .failed (.setupFailed c.resource c.action c.payloadIndex
      (.backend (some 500) "mock failure"))

namespace StandIn

open Runner

/-- The stand-in after more calls. -/
def having (s : StandIn) (calls : List Call) : StandIn :=
  { s with received := s.received ++ calls.map Call.received }

theorem length_received_having (s : StandIn) (calls : List Call) :
    (s.having calls).received.length = s.received.length + calls.length := by
  simp [having]

@[simp] theorem failAt_having (s : StandIn) (calls : List Call) :
    (s.having calls).failAt = s.failAt := rfl

theorem having_append (s : StandIn) (calls more : List Call) :
    (s.having calls).having more = s.having (calls ++ more) := by
  simp [having]

/-- The reply to a call depends on its number. -/
theorem reply_eq (s : StandIn) (c : Call) :
    backend.reply s c =
      (s.having [c],
        if s.failAt = some s.received.length then .failure (.backend (some 500) "mock failure")
        else .response (s.responseTo c.resource c.action)) := by
  change s.receive c.resource c.action c.payload = _
  rw [receive]
  split <;> rfl

/-- A call fails exactly if it has the number of the failing one. -/
theorem reply_failure_iff (s : StandIn) (c : Call) :
    (∃ e, (backend.reply s c).2 = .failure e) ↔ s.failAt = some s.received.length := by
  rw [reply_eq]
  split <;> simp_all

/-- What a stand-in has received, and a journal of its replies, of which the one of a number
is the only failure. -/
structure Kept (number : Nat) (memory : StandIn × List Reply) : Prop where
  failAt : memory.1.failAt = some number
  length : memory.2.length = memory.1.received.length
  failure_iff : ∀ i reply, memory.2[i]? = some reply →
    ((∃ e, reply = .failure e) ↔ i = number)

/-- A call is kept with its reply, which is a failure exactly if it has the number. -/
theorem Kept.reply {number : Nat} {memory : StandIn × List Reply} (h : Kept number memory)
    (c : Call) : Kept number (backend.journaled.reply memory c).1 := by
  obtain ⟨s, journal⟩ := memory
  obtain ⟨failAt, length, failure_iff⟩ := h
  have received : (backend.reply s c).1 = s.having [c] := by rw [reply_eq]
  have fails := reply_failure_iff s c
  simp only at failAt length failure_iff
  rw [failAt, ← length, Option.some.injEq] at fails
  rw [Backend.reply_journaled, received]
  generalize (backend.reply s c).2 = last at fails
  refine ⟨failAt, by simp [having, length], fun i reply kept => ?_⟩
  simp only at kept
  by_cases early : i < journal.length
  · rw [List.getElem?_append_left early] at kept
    exact failure_iff i reply kept
  · -- behind the journal there is only the reply to the new call
    obtain ⟨bound, -⟩ := List.getElem?_eq_some_iff.mp kept
    obtain rfl : i = journal.length := by
      rw [List.length_append, List.length_singleton] at bound
      omega
    rw [List.getElem?_concat_length] at kept
    obtain rfl := Option.some.inj kept
    rw [fails]
    exact eq_comm

variable {number : Nat} {memory : StandIn × List Reply}

/-- Calls are spared if the number of the failing one is before or behind them. -/
theorem spares_of_apart {s : StandIn} (failing : s.failAt = some number) {calls : Nat}
    (apart : number < s.received.length ∨ s.received.length + calls ≤ number) :
    s.Spares calls := by
  intro i bound same
  have here : number = s.received.length + i := Option.some.inj (failing.symm.trans same)
  omega

/-- A run whose calls do not have the number of the failing one is complete. -/
theorem leg_of_spared (turn : Turn) (spared : memory.1.Spares turn.scenario.calls.length) :
    (run backend.journaled turn.timing (.fresh memory) turn.scenario).1.memory.1 =
        memory.1.having turn.scenario.calls ∧
      (leg backend.journaled memory turn).Whole turn := by
  have served := (serves spared).journaled memory.2
  have run : run backend.journaled turn.timing (.fresh memory) turn.scenario = _ :=
    run_of_serves served
  refine ⟨by rw [run]; rfl, ?_, callsMade_of_serves served, ?_⟩
  · rw [leg, run]
  · rw [leg, run]
    exact ⟨_, rfl⟩

/-- A run that has the failing call among its own ends with it. -/
theorem leg_of_reached (turn : Turn) (failing : memory.1.failAt = some number)
    (ahead : memory.1.received.length ≤ number)
    (reached : number < memory.1.received.length + turn.scenario.calls.length) :
    ∃ made, (run backend.journaled turn.timing (.fresh memory) turn.scenario).1.memory.1 =
        memory.1.having made ∧
      (leg backend.journaled memory turn).issued = made.map Call.received ∧
      memory.1.received.length + made.length = number + 1 ∧
      (leg backend.journaled memory turn).CutAt number memory.1.received.length turn := by
  obtain ⟨skip, rfl⟩ := Nat.exists_eq_add_of_le ahead
  have inside : skip < turn.scenario.calls.length := by omega
  have split : turn.scenario.calls = turn.scenario.calls.take skip ++
      turn.scenario.calls[skip] :: turn.scenario.calls.drop (skip + 1) := by
    rw [List.getElem_cons_drop, List.take_append_drop]
  have size : (turn.scenario.calls.take skip).length = skip := by
    rw [List.length_take]
    omega
  generalize turn.scenario.calls.take skip = before at split size
  generalize turn.scenario.calls[skip] = c at split
  have spared : memory.1.Spares before.length := spares_of_apart failing (.inr (by omega))
  have served : backend.journaled.Serves memory before _ (memory.1.having before, _) :=
    (serves spared).journaled memory.2
  have last : (memory.1.having before).failAt =
      some (memory.1.having before).received.length := by
    rw [length_received_having, size]
    exact failing
  have stop := Backend.reply_journaled backend (memory.1.having before)
    (memory.2 ++ (before.map fun c => memory.1.responseTo c.resource c.action).map .response) c
  rw [reply_eq, if_pos last, having_append] at stop
  have ended : run backend.journaled turn.timing (.fresh memory) turn.scenario = _ :=
    run_of_failure split served stop
  have made : callsMade backend.journaled turn.timing memory turn.scenario = _ :=
    callsMade_of_stop split served (by rw [stop]; nofun)
  refine ⟨before ++ [c], by rw [ended], made, ?_, before, c, _, split, ?_, ?_, made, ?_⟩
  · rw [List.length_append, size, List.length_singleton, Nat.add_assoc]
  · rw [size]
  · rw [leg, ended]
  · rw [leg, ended]

/-- What a stand-in receives of a run are the calls that the runner makes. -/
theorem exists_having_run (turn : Turn) (failing : memory.1.failAt = some number) :
    ∃ made, (run backend.journaled turn.timing (.fresh memory) turn.scenario).1.memory.1 =
        memory.1.having made ∧
      (leg backend.journaled memory turn).issued = made.map Call.received := by
  by_cases reached : memory.1.received.length ≤ number ∧
      number < memory.1.received.length + turn.scenario.calls.length
  · obtain ⟨made, next, issued, -⟩ := leg_of_reached turn failing reached.1 reached.2
    exact ⟨made, next, issued⟩
  · have spared : memory.1.Spares turn.scenario.calls.length :=
      spares_of_apart failing (by omega)
    obtain ⟨next, -, issued, -⟩ := leg_of_spared turn spared
    exact ⟨_, next, issued⟩

/-- A stand-in receives the calls of all runners, one run after another. -/
theorem received_relay (turns : List Turn) (failing : memory.1.failAt = some number) :
    (relay backend.journaled memory turns).1.1.received = memory.1.received ++
      ((relay backend.journaled memory turns).2.map Leg.issued).flatten := by
  induction turns generalizing memory with
  | nil => simp [relay]
  | cons turn turns ih =>
    obtain ⟨made, next, issued⟩ := exists_having_run turn failing
    have rest := ih (by rw [next, failAt_having]; exact failing)
    rw [next] at rest
    simp only [relay, List.map_cons, List.flatten_cons, rest, issued]
    simp [having]

/-- Behind the failing call all runs are complete. -/
theorem relay_of_passed (turns : List Turn) (failing : memory.1.failAt = some number)
    (passed : number < memory.1.received.length) :
    List.Forall₂ Leg.Whole turns (relay backend.journaled memory turns).2 := by
  induction turns generalizing memory with
  | nil => exact .nil
  | cons turn turns ih =>
    obtain ⟨next, whole⟩ := leg_of_spared turn (spares_of_apart failing (.inl passed))
    refine .cons whole (ih ?_ ?_)
    · rw [next, failAt_having]
      exact failing
    · rw [next, length_received_having]
      omega

/-- Up to the failing call all runs are complete. If there is a run that has it among its
calls, that one ends with it, and all runs behind it are complete. -/
theorem relay_of_ahead (turns : List Turn) (failing : memory.1.failAt = some number)
    (ahead : memory.1.received.length ≤ number) :
    (relay backend.journaled memory turns).1.1.received.length ≤ number ∧
        List.Forall₂ Leg.Whole turns (relay backend.journaled memory turns).2 ∨
      number < (relay backend.journaled memory turns).1.1.received.length ∧
        ∃ before turn after legs leg rest, turns = before ++ turn :: after ∧
          (relay backend.journaled memory turns).2 = legs ++ leg :: rest ∧
          List.Forall₂ Leg.Whole before legs ∧
          leg.CutAt number (memory.1.received.length + (legs.map Leg.issued).flatten.length)
            turn ∧
          List.Forall₂ Leg.Whole after rest := by
  induction turns generalizing memory with
  | nil => exact .inl ⟨ahead, .nil⟩
  | cons turn turns ih =>
    by_cases reached : number < memory.1.received.length + turn.scenario.calls.length
    · -- this run comes to the failing call, and those behind it do not
      obtain ⟨made, next, issued, size, cut⟩ := leg_of_reached turn failing ahead reached
      have passed := relay_of_passed turns (by rw [next, failAt_having]; exact failing)
        (by rw [next, length_received_having]; omega)
      refine .inr ⟨?_, [], turn, turns, [], _, _, rfl, rfl, .nil, cut, passed⟩
      rw [received_relay _ failing, relay, List.map_cons, issued]
      simp only [List.flatten_cons, List.length_append, List.length_map]
      omega
    · -- this run is complete, and the failing call is still ahead
      have fits := Nat.not_lt.mp reached
      obtain ⟨next, whole⟩ := leg_of_spared turn (spares_of_apart failing (.inr fits))
      have rest := ih (by rw [next, failAt_having]; exact failing)
        (by rw [next, length_received_having]; exact fits)
      obtain ⟨few, complete⟩ | ⟨many, before, cutTurn, after, legs, cutLeg, rest, split, split',
          early, cut, late⟩ := rest
      · exact .inl ⟨few, .cons whole complete⟩
      · refine .inr ⟨many, turn :: before, cutTurn, after,
          leg backend.journaled memory turn :: legs, cutLeg, rest, ?_, ?_, .cons whole early, ?_,
          late⟩
        · rw [split, List.cons_append]
        · rw [relay, split', List.cons_append]
        · rw [next, length_received_having] at cut
          rw [List.map_cons, List.flatten_cons, List.length_append, whole.2.1, List.length_map,
            ← Nat.add_assoc]
          exact cut

/-- Fresh runners one after another over a stand-in that fails the call of a number. What it
has received are the calls that the runners made, in order, and of their replies that of the
number is the only failure. If it has not come to that number, all runs are complete.
Otherwise exactly one has failed, the one that has the call of the number among its own, at
this call; all runs before it and behind it are complete. -/
theorem relay_failingAt (responses : List (String × Json)) (number : Nat) (turns : List Turn) :
    let ended := relay backend.journaled (⟨[], responses, some number⟩, []) turns
    let received := ended.1.1.received
    let replies := ended.1.2
    received = (ended.2.map Leg.issued).flatten ∧
      (replies.length = received.length ∧
        ∀ i reply, replies[i]? = some reply → ((∃ e, reply = .failure e) ↔ i = number)) ∧
      (received.length ≤ number ∧ List.Forall₂ Leg.Whole turns ended.2 ∨
        number < received.length ∧
          ∃ before turn after legs leg rest, turns = before ++ turn :: after ∧
            ended.2 = legs ++ leg :: rest ∧
            List.Forall₂ Leg.Whole before legs ∧
            leg.CutAt number (legs.map Leg.issued).flatten.length turn ∧
            List.Forall₂ Leg.Whole after rest) := by
  intro ended received replies
  have start : Kept number (⟨[], responses, some number⟩, []) := ⟨rfl, rfl, nofun⟩
  have kept : Kept number ended.1 := relay_preserves (fun _ c h => h.reply c) turns start
  have made : received = [] ++ (ended.2.map Leg.issued).flatten := received_relay turns rfl
  rw [List.nil_append] at made
  refine ⟨made, ⟨kept.length, kept.failure_iff⟩, ?_⟩
  simpa only [List.length_nil, Nat.zero_add] using
    relay_of_ahead turns start.failAt (Nat.zero_le number)

end StandIn
end Rehearsal
