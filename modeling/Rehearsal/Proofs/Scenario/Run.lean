import Rehearsal.Scenario.Runner

/-!
# What a run amounts to

A run makes calls until one is not answered. `Backend.Serves` says which responses
a backend gives to calls that are all answered, and which memory it is left with.
Every list of calls is either served to its end, or has a first call that is not
answered; `run_of_serves`, `run_of_failure` and `run_of_abandoned` say what the run is
then.

Which calls were made is read off a backend that keeps them. Keeping them changes
neither the replies nor what the backend remembers otherwise.
-/

namespace Rehearsal

/-- A call as a backend receives it, which does not learn its positions. -/
def Call.received (c : Call) : ReceivedCall := ⟨c.resource, c.action, c.payload⟩

namespace Backend

variable {β : Type} {backend : Backend β} {memory middle last : β}
variable {calls before after : List Call} {responses : List Json}

/-- What a backend does with a call of a scenario. -/
def reply (backend : Backend β) (memory : β) (c : Call) : β × Reply :=
  backend.call memory c.resource c.action c.payload

/-- Calls that are made one after another are all answered, by these responses, and
leave the backend with the last memory. -/
inductive Serves (backend : Backend β) : β → List Call → List Json → β → Prop where
  | nil {memory : β} : Serves backend memory [] [] memory
  | cons {memory next last : β} {c : Call} {calls : List Call} {response : Json}
      {responses : List Json}
      (head : backend.reply memory c = (next, .response response))
      (tail : Serves backend next calls responses last) :
      Serves backend memory (c :: calls) (response :: responses) last

/-- Each call has a response. -/
theorem Serves.length_eq (h : backend.Serves memory calls responses last) :
    responses.length = calls.length := by
  induction h with
  | nil => rfl
  | cons _ _ ih => rw [List.length_cons, List.length_cons, ih]

/-- Either all calls are answered, or a first one is not. -/
theorem serves_or_stops (backend : Backend β) (memory : β) (calls : List Call) :
    (∃ responses last, backend.Serves memory calls responses last) ∨
      ∃ before c after responses middle, calls = before ++ c :: after ∧
        backend.Serves memory before responses middle ∧
        ∀ response, (backend.reply middle c).2 ≠ .response response := by
  induction calls generalizing memory with
  | nil => exact .inl ⟨[], memory, .nil⟩
  | cons c rest ih =>
    cases answer : backend.reply memory c with
    | mk next reply =>
      cases reply with
      | response response =>
        obtain ⟨responses, last, served⟩ | ⟨before, d, after, responses, middle, rfl, served, stop⟩ :=
          ih next
        · exact .inl ⟨_, last, .cons answer served⟩
        · exact .inr ⟨c :: before, d, after, _, middle, rfl, .cons answer served, stop⟩
      | failure e => exact .inr ⟨[], c, rest, [], memory, rfl, .nil, by simp [answer]⟩
      | abandoned => exact .inr ⟨[], c, rest, [], memory, rfl, .nil, by simp [answer]⟩

@[simp] theorem reply_recorded (backend : Backend β) (memory : β) (log : List ReceivedCall)
    (c : Call) :
    backend.recorded.reply (memory, log) c =
      (((backend.reply memory c).1, log ++ [c.received]), (backend.reply memory c).2) := rfl

/-- Keeping the calls changes nothing else, and keeps them in order. -/
theorem Serves.recorded (h : backend.Serves memory calls responses last)
    (log : List ReceivedCall) :
    backend.recorded.Serves (memory, log) calls responses
      (last, log ++ calls.map Call.received) := by
  induction h generalizing log with
  | nil => simpa using Serves.nil
  | @cons memory next last c calls response responses head tail ih =>
    have step : backend.recorded.reply (memory, log) c =
        ((next, log ++ [c.received]), .response response) := by
      simp [head]
    simpa using Serves.cons step (ih (log ++ [c.received]))

theorem reply_answering
    (answer : β → (resource action : String) → (payload : Json) → β × Except Error Json)
    (memory : β) (c : Call) :
    (answering answer).reply memory c =
      match answer memory c.resource c.action c.payload with
      | (next, .ok response) => (next, .response response)
      | (next, .error e) => (next, .failure e) := rfl

end Backend

/-- The record of a call that was answered with a response, after some milliseconds. -/
structure CallRecord.Answers (r : CallRecord) (c : Call) (response : Json) (duration : Nat) :
    Prop where
  resource : r.resource = c.resource
  action : r.action = c.action
  operationIndex : r.operationIndex = c.operationIndex
  payloadIndex : r.payloadIndex = c.payloadIndex
  response : r.response = response
  duration : r.duration = duration

/-- The report of a run of calls that were answered with responses: what the clock says of the
run is in it, and one record of each call, in the order of the calls. -/
structure Report.Covers (timing : Timing) (calls : List Call) (responses : List Json)
    (report : Report) : Prop where
  runId : report.runId = timing.runId
  startedAt : report.startedAt = timing.startedAt
  finishedAt : report.finishedAt = timing.finishedAt
  answered : responses.length = calls.length
  recorded : report.calls.length = calls.length
  answers : ∀ (i : Nat) (r : CallRecord) (c : Call) (response : Json),
    report.calls[i]? = some r → calls[i]? = some c → responses[i]? = some response →
      r.Answers c response (timing.duration i)

/-- What comes of calls behind others that were answered. -/
def Issued.behind (records : List CallRecord) : Issued → Issued
  | .answered more => .answered (records ++ more)
  | other => other

@[simp] theorem Issued.behind_nil (issued : Issued) : issued.behind [] = issued := by
  cases issued <;> rfl

namespace Runner

open Backend

variable {β : Type} {backend : Backend β} {timing : Timing} {memory middle last : β}
variable {calls before after : List Call} {c : Call} {responses : List Json}

/-- The records of answered calls, the first of which has a number in the run. -/
def records (timing : Timing) (index : Nat) (calls : List Call) (responses : List Json) :
    List CallRecord :=
  (calls.zip responses).mapIdx fun i answered => record timing (index + i) answered.1 answered.2

@[simp] theorem records_nil (index : Nat) : records timing index [] responses = [] := rfl

@[simp] theorem records_cons (index : Nat) (response : Json) :
    records timing index (c :: calls) (response :: responses) =
      record timing index c response :: records timing (index + 1) calls responses := by
  simp only [records, List.zip_cons_cons, List.mapIdx_cons, Nat.add_zero, Nat.add_assoc,
    Nat.add_comm 1]

/-- Calls that are all answered leave the calls behind them to be made, from the
memory that they lead to. -/
theorem issue_append (timing : Timing) (h : backend.Serves memory calls responses middle)
    (rest : List Call) (index : Nat) :
    issue backend timing index memory (calls ++ rest) =
      ((issue backend timing (index + calls.length) middle rest).1,
        (issue backend timing (index + calls.length) middle rest).2.behind
          (records timing index calls responses)) := by
  induction h generalizing index with
  | nil => simp
  | @cons memory next last c calls response responses head tail ih =>
    have position : index + (c :: calls).length = index + 1 + calls.length := by
      simp only [List.length_cons]
      omega
    rw [position, List.cons_append, issue]
    simp only [reply] at head
    rw [head]
    simp only [ih (index + 1), records_cons]
    generalize issue backend timing (index + 1 + calls.length) last rest = issued
    obtain ⟨memory, issued⟩ := issued
    cases issued <;> rfl

/-- A run of calls that are all answered is complete, with a record of each call. -/
theorem run_of_serves {scenario : Scenario}
    (h : backend.Serves memory scenario.calls responses last) :
    run backend timing (fresh memory) scenario =
      (⟨last, .complete⟩,
        .finished ⟨timing.runId, timing.startedAt, timing.finishedAt,
          records timing 0 scenario.calls responses⟩) := by
  have issued := issue_append timing h [] 0
  rw [List.append_nil] at issued
  simp [run, fresh, issued, issue, Issued.behind]

/-- The records of served calls are those of the calls, one after another. -/
theorem covers_records (timing : Timing) (h : backend.Serves memory calls responses last) :
    Report.Covers timing calls responses
      ⟨timing.runId, timing.startedAt, timing.finishedAt, records timing 0 calls responses⟩ where
  runId := rfl
  startedAt := rfl
  finishedAt := rfl
  answered := h.length_eq
  recorded := by
    rw [records, List.length_mapIdx, List.length_zip, h.length_eq, Nat.min_self]
  answers i r c response found call answer := by
    have pair : (calls.zip responses)[i]? = some (c, response) :=
      List.getElem?_zip_eq_some.mpr ⟨call, answer⟩
    rw [records, List.getElem?_mapIdx, pair, Option.map_some, Nat.zero_add] at found
    obtain rfl := Option.some.inj found
    exact ⟨rfl, rfl, rfl, rfl, rfl, rfl⟩

/-- A run ends with the first call that fails. -/
theorem run_of_failure {scenario : Scenario} {e : Error}
    (calls : scenario.calls = before ++ c :: after)
    (h : backend.Serves memory before responses middle)
    (stop : backend.reply middle c = (last, .failure e)) :
    run backend timing (fresh memory) scenario =
      (⟨last, .failed⟩, .failed (.setupFailed c.resource c.action c.payloadIndex e)) := by
  have issued := issue_append timing h (c :: after) 0
  simp only [reply] at stop
  simp [run, fresh, calls, issued, issue, stop, Issued.behind]

/-- A run that is given up while a call is made stays where it is. -/
theorem run_of_abandoned {scenario : Scenario}
    (calls : scenario.calls = before ++ c :: after)
    (h : backend.Serves memory before responses middle)
    (stop : backend.reply middle c = (last, .abandoned)) :
    run backend timing (fresh memory) scenario = (⟨last, .running⟩, .abandoned) := by
  have issued := issue_append timing h (c :: after) 0
  simp only [reply] at stop
  simp [run, fresh, calls, issued, issue, stop, Issued.behind]

/-- The calls that a backend gets from a run, in order. -/
def callsMade (backend : Backend β) (timing : Timing) (memory : β) (scenario : Scenario) :
    List ReceivedCall :=
  (run backend.recorded timing (fresh (memory, [])) scenario).1.memory.2

theorem callsMade_of_serves {scenario : Scenario}
    (h : backend.Serves memory scenario.calls responses last) :
    callsMade backend timing memory scenario = scenario.calls.map Call.received := by
  rw [callsMade, run_of_serves (h.recorded [])]
  rfl

/-- The first call that is not answered is the last one that a backend gets. -/
theorem callsMade_of_stop {scenario : Scenario}
    (calls : scenario.calls = before ++ c :: after)
    (h : backend.Serves memory before responses middle)
    (stop : ∀ response, (backend.reply middle c).2 ≠ .response response) :
    callsMade backend timing memory scenario = (before ++ [c]).map Call.received := by
  have served := h.recorded []
  have got := backend.reply_recorded middle ([] ++ before.map Call.received) c
  rw [callsMade]
  cases reply : (backend.reply middle c).2 with
  | response response => exact absurd reply (stop response)
  | failure e =>
    rw [reply] at got
    rw [run_of_failure calls served got]
    simp
  | abandoned =>
    rw [reply] at got
    rw [run_of_abandoned calls served got]
    simp

/-- A run with a call that is not answered does not finish. -/
theorem not_finished_of_stop {scenario : Scenario}
    (calls : scenario.calls = before ++ c :: after)
    (h : backend.Serves memory before responses middle)
    (stop : ∀ response, (backend.reply middle c).2 ≠ .response response) (report : Report) :
    (run backend timing (fresh memory) scenario).2 ≠ .finished report := by
  cases answer : backend.reply middle c with
  | mk last reply =>
    cases reply with
    | response response => exact absurd (congrArg Prod.snd answer) (stop response)
    | failure e =>
      rw [run_of_failure calls h answer]
      nofun
    | abandoned =>
      rw [run_of_abandoned calls h answer]
      nofun

/-- A run is not given up where every call gets a response or a failure. -/
theorem run_answering_ne_abandoned
    (answer : β → (resource action : String) → (payload : Json) → β × Except Error Json)
    (timing : Timing) (memory : β) (scenario : Scenario) :
    (run (answering answer) timing (fresh memory) scenario).2 ≠ .abandoned := by
  obtain ⟨responses, last, served⟩ | ⟨before, c, after, responses, middle, calls, served, stop⟩ :=
    serves_or_stops (answering answer) memory scenario.calls
  · rw [run_of_serves served]
    nofun
  · have reply := reply_answering answer middle c
    cases given : answer middle c.resource c.action c.payload with
    | mk last result =>
      rw [given] at reply
      cases result with
      | ok response => exact absurd (congrArg Prod.snd reply) (stop response)
      | error e =>
        rw [run_of_failure calls served reply]
        nofun

/-- What a run comes to when every call is answered, with a response or with a failure.
Either all calls are made and responded to, and the run is complete with a report of all of
them; or a first call fails, no call is made behind it, and the run has failed with the
positions of that call and its failure. -/
theorem run_answering
    (answer : β → (resource action : String) → (payload : Json) → β × Except Error Json)
    (timing : Timing) (memory : β) (scenario : Scenario) :
    (∃ responses last report,
      (answering answer).Serves memory scenario.calls responses last ∧
      callsMade (answering answer) timing memory scenario =
        scenario.calls.map Call.received ∧
      report.Covers timing scenario.calls responses ∧
      run (answering answer) timing (fresh memory) scenario =
        (⟨last, .complete⟩, .finished report)) ∨
    ∃ before c after responses middle last e,
      scenario.calls = before ++ c :: after ∧
      (answering answer).Serves memory before responses middle ∧
      answer middle c.resource c.action c.payload = (last, .error e) ∧
      callsMade (answering answer) timing memory scenario =
        (before ++ [c]).map Call.received ∧
      run (answering answer) timing (fresh memory) scenario =
        (⟨last, .failed⟩, .failed (.setupFailed c.resource c.action c.payloadIndex e)) := by
  obtain ⟨responses, last, served⟩ | ⟨before, c, after, responses, middle, calls, served, stop⟩ :=
    serves_or_stops (answering answer) memory scenario.calls
  · exact .inl ⟨responses, last, _, served, callsMade_of_serves served,
      covers_records timing served, run_of_serves served⟩
  · have reply := reply_answering answer middle c
    cases given : answer middle c.resource c.action c.payload with
    | mk last result =>
      rw [given] at reply
      cases result with
      | ok response => exact absurd (congrArg Prod.snd reply) (stop response)
      | error e =>
        exact .inr ⟨before, c, after, responses, middle, last, e, calls, served, given,
          callsMade_of_stop calls served stop, run_of_failure calls served reply⟩

end Runner
end Rehearsal
