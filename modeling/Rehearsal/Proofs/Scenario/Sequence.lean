import Rehearsal.Proofs.Scenario.Run

/-!
# One scenario after another

Running two scenarios put together is running the first, and then, if that is complete, the
second with a runner of its own over the same backend. The calls of the second stand behind
all operations of the first, also behind those without payloads, and a backend does not
learn the positions of calls; so a run of both passes through the same memories. What the
clock says is each run's own.
-/

namespace Rehearsal

/-- A call whose operation stands behind others. -/
def Call.behind (operations : Nat) (c : Call) : Call :=
  { c with operationIndex := operations + c.operationIndex }

@[simp] theorem Call.received_behind (operations : Nat) (c : Call) :
    (c.behind operations).received = c.received := rfl

/-- The record of a call whose operation stands behind others. -/
def CallRecord.behind (operations : Nat) (r : CallRecord) : CallRecord :=
  { r with operationIndex := operations + r.operationIndex }

namespace Scenario

theorem callsOf_add (index operations : Nat) (op : Operation) :
    callsOf (index + operations) op = (callsOf index op).map (Call.behind operations) := by
  refine List.ext_getElem (by simp [callsOf]) fun i _ _ => ?_
  simp [callsOf, Call.behind, Nat.add_comm]

/-- The calls of the second scenario come behind all operations of the first. -/
theorem calls_andThen (first second : Scenario) :
    (first.andThen second).calls =
      first.calls ++ second.calls.map (Call.behind first.operations.length) := by
  have moved : second.operations.mapIdx (fun i => callsOf (i + first.operations.length)) =
      (second.operations.mapIdx callsOf).map
        (List.map (Call.behind first.operations.length)) := by
    refine List.ext_getElem (by simp) fun i _ _ => ?_
    simp [callsOf_add]
  rw [calls, operations_andThen, List.mapIdx_append, List.flatten_append, moved,
    ← List.map_flatten]
  rfl

end Scenario

namespace Backend

variable {β : Type} {backend : Backend β} {memory middle last : β}
variable {calls more : List Call} {responses others : List Json}

/-- Calls are served one after another. -/
theorem Serves.append (h : backend.Serves memory calls responses middle)
    (rest : backend.Serves middle more others last) :
    backend.Serves memory (calls ++ more) (responses ++ others) last := by
  induction h with
  | nil => exact rest
  | cons head _ ih => exact .cons head (ih rest)

/-- The positions of calls have no say in their answers. -/
theorem Serves.behind (h : backend.Serves memory calls responses last) (operations : Nat) :
    backend.Serves memory (calls.map (Call.behind operations)) responses last := by
  induction h with
  | nil => exact .nil
  | cons head _ ih => exact .cons head ih

end Backend

namespace Runner

open Backend

variable {β : Type} {backend : Backend β} {timing : Timing}
variable {calls more : List Call} {responses others : List Json}

/-- Records with the durations that another clock says, the first of which has a number. -/
def timed (timing : Timing) (index : Nat) (records : List CallRecord) : List CallRecord :=
  records.mapIdx fun i r => { r with duration := timing.duration (index + i) }

theorem timed_records (timing other : Timing) (index number : Nat) (calls : List Call)
    (responses : List Json) :
    timed timing index (records other number calls responses) =
      records timing index calls responses := by
  rw [timed, records, records, List.mapIdx_mapIdx]
  rfl

theorem timed_append (timing : Timing) (index : Nat) (front back : List CallRecord) :
    timed timing index (front ++ back) =
      timed timing index front ++ timed timing (index + front.length) back := by
  simp [timed, List.mapIdx_append, Nat.add_left_comm, Nat.add_comm]

theorem length_records (same : calls.length = responses.length) (index : Nat) :
    (records timing index calls responses).length = calls.length := by
  simp [records, same]

theorem records_append (same : calls.length = responses.length) (index : Nat) (more : List Call)
    (others : List Json) :
    records timing index (calls ++ more) (responses ++ others) =
      records timing index calls responses ++
        records timing (index + calls.length) more others := by
  simp [records, List.zip_append same, List.mapIdx_append, same, Nat.add_left_comm, Nat.add_comm]

theorem records_behind (index operations : Nat) (calls : List Call) (responses : List Json) :
    records timing index (calls.map (Call.behind operations)) responses =
      (records timing index calls responses).map (CallRecord.behind operations) := by
  refine List.ext_getElem (by simp [records]) fun i _ _ => ?_
  simp [records, record, Call.behind, CallRecord.behind]

/-- The records of calls that are made one after another are those of two runs, with the
durations of the whole. -/
theorem records_andThen (timing early late : Timing) (operations : Nat)
    (same : calls.length = responses.length) (more : List Call) (others : List Json) :
    records timing 0 (calls ++ more.map (Call.behind operations)) (responses ++ others) =
      timed timing 0 (records early 0 calls responses ++
        (records late 0 more others).map (CallRecord.behind operations)) := by
  rw [records_append same, timed_append, timed_records, ← records_behind, timed_records,
    length_records same]

variable {memory start middle : β} {before after front back : List Call} {c d : Call}
variable {scenario other : Scenario} {earlier : List Json}

/-- Two runs that come to the same call with the same memory end there in the same way, if
the call is not answered. -/
theorem run_eq_of_stop (timing clock : Timing)
    (split : scenario.calls = before ++ c :: after) (split' : other.calls = front ++ d :: back)
    (served : backend.Serves memory before responses middle)
    (served' : backend.Serves start front earlier middle)
    (same : c.received = d.received) (place : c.payloadIndex = d.payloadIndex)
    (stop : ∀ response, (backend.reply middle d).2 ≠ .response response) :
    run backend timing (fresh memory) scenario = run backend clock (fresh start) other := by
  obtain ⟨resource, action, payload⟩ := ReceivedCall.mk.inj same
  cases answer : backend.reply middle d with
  | mk last reply =>
    have again : backend.reply middle c = (last, reply) := by
      rw [← answer, Backend.reply, Backend.reply, resource, action, payload]
    cases reply with
    | response response => exact absurd (congrArg Prod.snd answer) (stop response)
    | failure e =>
      rw [run_of_failure split served again, run_of_failure split' served' answer, resource,
        action, place]
    | abandoned =>
      rw [run_of_abandoned split served again, run_of_abandoned split' served' answer]

section

variable {first second : Scenario} {last : β}

/-- If all calls of both scenarios are answered, so are those of the whole. -/
theorem run_andThen_of_serves (timing early late : Timing)
    (served : backend.Serves memory first.calls responses middle)
    (rest : backend.Serves middle second.calls others last) :
    run backend timing (fresh memory) (first.andThen second) =
        (⟨last, .complete⟩,
          .finished ⟨timing.runId, timing.startedAt, timing.finishedAt,
            timed timing 0 (records early 0 first.calls responses ++
              (records late 0 second.calls others).map (.behind first.operations.length))⟩) ∧
      callsMade backend timing memory (first.andThen second) =
        first.calls.map Call.received ++ second.calls.map Call.received := by
  have calls := Scenario.calls_andThen first second
  have whole : backend.Serves memory (first.andThen second).calls (responses ++ others) last := by
    rw [calls]
    exact served.append (rest.behind _)
  constructor
  · rw [run_of_serves whole, calls, records_andThen timing early late _ served.length_eq.symm]
  · rw [callsMade_of_serves whole, calls]
    simp

/-- A call of the second scenario that is not answered ends both runs in the same way. -/
theorem run_andThen_of_stop_in_second (timing late : Timing)
    (served : backend.Serves memory first.calls responses middle)
    (split : second.calls = before ++ c :: after)
    (rest : backend.Serves middle before others last)
    (stop : ∀ response, (backend.reply last c).2 ≠ .response response) :
    run backend timing (fresh memory) (first.andThen second) =
        run backend late (fresh middle) second ∧
      callsMade backend timing memory (first.andThen second) =
        first.calls.map Call.received ++ (before ++ [c]).map Call.received := by
  have whole : (first.andThen second).calls =
      (first.calls ++ before.map (.behind first.operations.length)) ++
        c.behind first.operations.length :: after.map (.behind first.operations.length) := by
    rw [Scenario.calls_andThen, split]
    simp
  have answered := served.append (rest.behind first.operations.length)
  constructor
  · exact run_eq_of_stop timing late whole split answered rest rfl rfl stop
  · rw [callsMade_of_stop whole answered stop]
    simp

/-- A call of the first scenario that is not answered ends both runs in the same way. -/
theorem run_andThen_of_stop_in_first (timing early : Timing) (second : Scenario)
    (split : first.calls = before ++ c :: after)
    (served : backend.Serves memory before responses middle)
    (stop : ∀ response, (backend.reply middle c).2 ≠ .response response) :
    run backend timing (fresh memory) (first.andThen second) =
        run backend early (fresh memory) first ∧
      callsMade backend timing memory (first.andThen second) =
        (before ++ [c]).map Call.received := by
  have whole : (first.andThen second).calls =
      before ++ c :: (after ++ second.calls.map (.behind first.operations.length)) := by
    rw [Scenario.calls_andThen, split]
    simp
  constructor
  · exact run_eq_of_stop timing early whole split served served rfl rfl stop
  · exact callsMade_of_stop whole served stop

end

/-- Running two scenarios put together is running one after another, the second with a fresh
runner and only if the first is complete. If the first is not complete, the run ends as its
run does. If it is, the run makes the calls of both and leaves the runner and the backend of
the second, with the report of both or the failure of the second. In the report the records
of the second stand behind those of the first, and their operations behind its operations. -/
theorem run_andThen (backend : Backend β) (timing early late : Timing) (memory : β)
    (first second : Scenario) :
    let one := run backend early (fresh memory) first
    let two := run backend late (fresh one.1.memory) second
    let both := run backend timing (fresh memory) (first.andThen second)
    (∃ report, one.2 = .finished report ∧ both.1 = two.1 ∧
        callsMade backend timing memory (first.andThen second) =
          callsMade backend early memory first ++
            callsMade backend late one.1.memory second ∧
        ((∃ more, two.2 = .finished more ∧
            both.2 = .finished ⟨timing.runId, timing.startedAt, timing.finishedAt,
              timed timing 0
                (report.calls ++ more.calls.map (.behind first.operations.length))⟩) ∨
          (∀ more, two.2 ≠ .finished more) ∧ both.2 = two.2)) ∨
      (∀ report, one.2 ≠ .finished report) ∧ both = one ∧
        callsMade backend timing memory (first.andThen second) =
          callsMade backend early memory first := by
  intro one two both
  obtain ⟨responses, middle, served⟩ | ⟨before, c, after, responses, middle, split, served, stop⟩ :=
    serves_or_stops backend memory first.calls
  · -- the first run is complete, and the second begins where it ends
    have complete : one = _ := run_of_serves served
    have start : one.1.memory = middle := by rw [complete]
    refine .inl ⟨_, congrArg Prod.snd complete, ?_⟩
    rw [callsMade_of_serves served]
    simp only [two, start]
    obtain ⟨others, last, rest⟩ | ⟨before, c, after, others, last, split, rest, stop⟩ :=
      serves_or_stops backend middle second.calls
    · obtain ⟨run, made⟩ := run_andThen_of_serves timing early late served rest
      have ended : both.1 = ⟨last, .complete⟩ := congrArg Prod.fst run
      rw [run_of_serves rest, callsMade_of_serves rest]
      exact ⟨ended, made, .inl ⟨_, rfl, congrArg Prod.snd run⟩⟩
    · obtain ⟨run, made⟩ := run_andThen_of_stop_in_second timing late served split rest stop
      rw [callsMade_of_stop split rest stop]
      exact ⟨congrArg Prod.fst run, made,
        .inr ⟨not_finished_of_stop split rest stop, congrArg Prod.snd run⟩⟩
  · obtain ⟨run, made⟩ := run_andThen_of_stop_in_first timing early second split served stop
    rw [callsMade_of_stop split served stop]
    exact .inr ⟨not_finished_of_stop split served stop, run, made⟩

end Runner
end Rehearsal
