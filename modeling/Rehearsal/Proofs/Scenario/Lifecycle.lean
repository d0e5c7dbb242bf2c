import Mathlib.Data.List.Chain
import Mathlib.Data.List.Iterate
import Rehearsal.Proofs.Scenario.Run

/-!
# The life of a runner

An attempt taken apart into single calls, so that one can look at the runner
between them. `iterate_next_enter` says that these steps come to what `Runner.run`
says, so every fact about the moments of an attempt is a fact about the run.

A caller gives an attempt up while a call is in flight; the reply `abandoned`
stands for that, and a backend may give it to any call. A runner that was given up
stays in the state `running`, and is used like every other that has begun.
-/

namespace Rehearsal

/-- The moves of the state of a runner. -/
inductive RunState.Follows : RunState → RunState → Prop where
  | stay (state : RunState) : Follows state state
  | begin : Follows .notRun .running
  | complete : Follows .running .complete
  | fail : Follows .running .failed

/-- A runner that has begun never gets back. -/
theorem RunState.Follows.ne_notRun {s t : RunState} (h : Follows s t) (begun : s ≠ .notRun) :
    t ≠ .notRun := by
  cases h with
  | stay => exact begun
  | begin => exact absurd rfl begun
  | complete => simp
  | fail => simp

/-- A moment of an attempt. -/
inductive Stage (β : Type) where
  /-- Some calls were answered, and others are to be made. -/
  | making (memory : β) (index : Nat) (answered : List CallRecord) (pending : List Call)
  /-- The attempt has come to its end. -/
  | closed (runner : Runner β) (outcome : Outcome)

namespace Stage

variable {β : Type}

/-- The state of the runner at a moment. -/
def state : Stage β → RunState
  | .making .. => .running
  | .closed runner _ => runner.state

/-- The memory of the backend at a moment. -/
def memory : Stage β → β
  | .making memory .. => memory
  | .closed runner _ => runner.memory

/-- How an attempt begins. A runner that was used refuses. -/
def enter (runner : Runner β) (scenario : Scenario) : Stage β :=
  if runner.state = .notRun then .making runner.memory 0 [] scenario.calls
  else .closed runner (.failed (Runner.alreadyUsed runner.state))

/-- The moment after one call, or after the last one. -/
def next (backend : Backend β) (timing : Timing) : Stage β → Stage β
  | .making memory _ answered [] =>
    .closed ⟨memory, .complete⟩
      (.finished ⟨timing.runId, timing.startedAt, timing.finishedAt, answered⟩)
  | .making memory index answered (c :: pending) =>
    match backend.reply memory c with
    | (memory, .response response) =>
      .making memory (index + 1) (answered ++ [Runner.record timing index c response]) pending
    | (memory, .failure e) =>
      .closed ⟨memory, .failed⟩ (.failed (.setupFailed c.resource c.action c.payloadIndex e))
    | (memory, .abandoned) => .closed ⟨memory, .running⟩ .abandoned
  | .closed runner outcome => .closed runner outcome

/-- The end of an attempt, from what came of its calls. -/
def ended (timing : Timing) : β × Issued → Stage β
  | (memory, .answered records) =>
    .closed ⟨memory, .complete⟩
      (.finished ⟨timing.runId, timing.startedAt, timing.finishedAt, records⟩)
  | (memory, .failed e) => .closed ⟨memory, .failed⟩ (.failed e)
  | (memory, .abandoned) => .closed ⟨memory, .running⟩ .abandoned

variable {backend : Backend β} {timing : Timing}

@[simp] theorem iterate_next_closed (runner : Runner β) (outcome : Outcome) (steps : Nat) :
    (next backend timing)^[steps] (.closed runner outcome) = .closed runner outcome :=
  Function.iterate_fixed rfl steps

/-- The calls that are pending come to what issuing them comes to. -/
theorem iterate_next_making (memory : β) (index : Nat) (answered : List CallRecord)
    (pending : List Call) :
    (next backend timing)^[pending.length + 1] (.making memory index answered pending) =
      ended timing ((Runner.issue backend timing index memory pending).1,
        (Runner.issue backend timing index memory pending).2.behind answered) := by
  induction pending generalizing memory index answered with
  | nil => simp [next, Runner.issue, Issued.behind, ended]
  | cons c pending ih =>
    rw [List.length_cons, Function.iterate_succ_apply, next, Runner.issue]
    cases given : backend.reply memory c with
    | mk after reply =>
      rw [Backend.reply] at given
      rw [given]
      cases reply with
      | response response =>
        simp only [ih]
        generalize Runner.issue backend timing (index + 1) after pending = issued
        obtain ⟨last, issued⟩ := issued
        cases issued <;> simp [Issued.behind, ended]
      | failure e => simp [Issued.behind, ended]
      | abandoned => simp [Issued.behind, ended]

/-- The steps of an attempt come to what the runner comes to. -/
theorem iterate_next_enter (runner : Runner β) (scenario : Scenario) :
    (next backend timing)^[scenario.calls.length + 1] (enter runner scenario) =
      .closed (Runner.run backend timing runner scenario).1
        (Runner.run backend timing runner scenario).2 := by
  by_cases unused : runner.state = .notRun
  · rw [enter, if_pos unused, iterate_next_making, Runner.run, if_pos unused]
    generalize Runner.issue backend timing 0 runner.memory scenario.calls = issued
    obtain ⟨last, issued⟩ := issued
    cases issued <;> simp [Issued.behind, ended]
  · simp [enter, Runner.run, unused]

/-- What a runner begins an attempt with follows from where it is. -/
theorem state_enter (runner : Runner β) (scenario : Scenario) :
    runner.state.Follows (enter runner scenario).state := by
  by_cases unused : runner.state = .notRun
  · simpa [enter, unused, state] using RunState.Follows.begin
  · simpa [enter, unused, state] using RunState.Follows.stay runner.state

/-- One step is at most one move. -/
theorem state_next (stage : Stage β) :
    stage.state.Follows (next backend timing stage).state := by
  cases stage with
  | closed runner outcome => exact .stay _
  | making memory index answered pending =>
    cases pending with
    | nil => exact .complete
    | cons c pending =>
      rw [next]
      cases backend.reply memory c with
      | mk after reply =>
        cases reply with
        | response response => exact .stay _
        | failure e => exact .fail
        | abandoned => exact .stay _

/-- The calls that a backend got are the first ones of a list, and while an attempt is
under way the pending ones are the others. -/
def Within (all : List Call) : Stage (β × List ReceivedCall) → Prop
  | .making memory _ _ pending => memory.2 ++ pending.map Call.received = all.map Call.received
  | .closed runner _ => runner.memory.2 <+: all.map Call.received

theorem Within.memory_begins {all : List Call} {stage : Stage (β × List ReceivedCall)}
    (h : stage.Within all) : stage.memory.2 <+: all.map Call.received := by
  cases stage with
  | making memory index answered pending => exact ⟨_, h⟩
  | closed runner outcome => exact h

/-- Every call that is made is the next one of the list. -/
theorem Within.next {all : List Call} {stage : Stage (β × List ReceivedCall)}
    (h : stage.Within all) : (next backend.recorded timing stage).Within all := by
  cases stage with
  | closed runner outcome => exact h
  | making memory index answered pending =>
    cases pending with
    | nil => exact ⟨[], h⟩
    | cons c pending =>
      obtain ⟨memory, log⟩ := memory
      have more : (log ++ [c.received]) ++ pending.map Call.received =
          all.map Call.received := by
        simpa [Within] using h
      rw [Stage.next, Backend.reply_recorded]
      cases (backend.reply memory c).2 with
      | response response => exact more
      | failure e => exact ⟨_, more⟩
      | abandoned => exact ⟨_, more⟩

theorem Within.iterate_next {all : List Call} {stage : Stage (β × List ReceivedCall)}
    (h : stage.Within all) (steps : Nat) :
    ((Stage.next backend.recorded timing)^[steps] stage).Within all := by
  induction steps generalizing stage with
  | zero => exact h
  | succ steps ih => exact ih h.next

end Stage

namespace Runner

open Stage

variable {β : Type} {backend : Backend β} {timing : Timing}

/-- The moments of an attempt, from its first to its end. -/
def stages (backend : Backend β) (timing : Timing) (runner : Runner β) (scenario : Scenario) :
    List (Stage β) :=
  List.iterate (next backend timing) (enter runner scenario) (scenario.calls.length + 2)

/-- The moments of one attempt after another on the same runner. -/
def life (backend : Backend β) (timing : Timing) : Runner β → List Scenario → List (Stage β)
  | _, [] => []
  | runner, scenario :: rest =>
    stages backend timing runner scenario ++
      life backend timing (run backend timing runner scenario).1 rest

/-- The last moment of an attempt is its outcome. -/
theorem stages_eq_concat (runner : Runner β) (scenario : Scenario) :
    stages backend timing runner scenario =
      List.iterate (next backend timing) (enter runner scenario) (scenario.calls.length + 1) ++
        [.closed (run backend timing runner scenario).1 (run backend timing runner scenario).2] := by
  rw [stages, List.iterate_add _ _ (scenario.calls.length + 1) 1, iterate_next_enter]
  rfl

theorem isChain_state_iterate (stage : Stage β) (steps : Nat) :
    ((List.iterate (next backend timing) stage steps).map Stage.state).IsChain
      RunState.Follows := by
  induction steps generalizing stage with
  | zero => exact .nil
  | succ steps ih =>
    cases steps with
    | zero => exact .singleton _
    | succ steps => exact .cons_cons (state_next stage) (ih (next backend timing stage))

/-- The states of one attempt, beginning with the one before it. -/
theorem isChain_state_stages (backend : Backend β) (timing : Timing) (runner : Runner β)
    (scenario : Scenario) :
    (runner.state :: (stages backend timing runner scenario).map Stage.state).IsChain
      RunState.Follows :=
  .cons_cons (state_enter runner scenario)
    (isChain_state_iterate (enter runner scenario) (scenario.calls.length + 2))

/-- A state only ever moves on. -/
theorem isChain_state_life (runner : Runner β) (scenarios : List Scenario) :
    (runner.state :: (life backend timing runner scenarios).map Stage.state).IsChain
      RunState.Follows := by
  induction scenarios generalizing runner with
  | nil => exact .singleton _
  | cons scenario rest ih =>
    -- the last moment of the first attempt is where the other attempts begin
    have attempt := isChain_state_stages backend timing runner scenario
    have others := ih (run backend timing runner scenario).1
    rw [stages_eq_concat, List.map_append, ← List.cons_append] at attempt
    rw [life, stages_eq_concat]
    simpa using attempt.append_overlap others (by simp)

theorem run_of_used {runner : Runner β} (used : runner.state ≠ .notRun) (scenario : Scenario) :
    run backend timing runner scenario = (runner, .failed (alreadyUsed runner.state)) :=
  if_neg used

/-- A runner that was used refuses every attempt, and no attempt changes it. -/
theorem attempts_of_used {runner : Runner β} (used : runner.state ≠ .notRun)
    (scenarios : List Scenario) :
    attempts backend timing runner scenarios =
      (runner, scenarios.map fun _ => .failed (alreadyUsed runner.state)) := by
  induction scenarios with
  | nil => rfl
  | cons scenario rest ih => simp [attempts, run_of_used used, ih]

theorem eq_closed_of_mem_life {runner : Runner β} (used : runner.state ≠ .notRun)
    (scenarios : List Scenario) {stage : Stage β}
    (h : stage ∈ life backend timing runner scenarios) :
    stage = .closed runner (.failed (alreadyUsed runner.state)) := by
  induction scenarios with
  | nil => simp [life] at h
  | cons scenario rest ih =>
    rw [life, run_of_used used, List.mem_append, stages, List.mem_iterate] at h
    obtain ⟨steps, -, rfl⟩ | later := h
    · rw [enter, if_neg used, iterate_next_closed]
    · exact ih later

/-- At every moment of the first attempt the backend got the first calls of its scenario. -/
theorem within_of_mem_stages {memory : β} {scenario : Scenario}
    {stage : Stage (β × List ReceivedCall)}
    (h : stage ∈ stages backend.recorded timing (fresh (memory, [])) scenario) :
    stage.Within scenario.calls := by
  rw [stages, List.mem_iterate] at h
  obtain ⟨steps, -, rfl⟩ := h
  have start : (enter (fresh (memory, ([] : List ReceivedCall))) scenario).Within
      scenario.calls := by
    simp [enter, fresh, Within]
  exact start.iterate_next steps

/-- The state in which an attempt ends has begun. -/
theorem state_run_fresh_ne_notRun (memory : β) (scenario : Scenario) :
    (run backend timing (fresh memory) scenario).1.state ≠ .notRun := by
  have begun : ∀ steps, ((next backend timing)^[steps] (enter (fresh memory) scenario)).state ≠
      .notRun := by
    intro steps
    induction steps with
    | zero => simp [enter, fresh, Stage.state]
    | succ steps ih =>
      rw [Function.iterate_succ_apply']
      exact (state_next _).ne_notRun ih
  have last := begun (scenario.calls.length + 1)
  rwa [iterate_next_enter] at last

/-- A runner runs once. Over any attempts, each of which may be given up at any call, its
state moves from `notRun` to `running` and from there to `complete` or `failed`, if
anywhere. At every moment the calls that the backend got are the first ones of the first
scenario. Each attempt behind the first is refused, makes no call, and leaves the runner
where the first attempt left it. -/
theorem runs_once (backend : Backend β) (timing : Timing) (memory : β) (first : Scenario)
    (rest : List Scenario) :
    let start : Runner (β × List ReceivedCall) := fresh (memory, [])
    let used := (run backend.recorded timing start first).1
    let outcome := (run backend.recorded timing start first).2
    (.notRun :: (life backend.recorded timing start (first :: rest)).map Stage.state).IsChain
        RunState.Follows ∧
      used.state ≠ .notRun ∧
      (∀ stage ∈ life backend.recorded timing start (first :: rest),
        stage.memory.2 <+: first.calls.map Call.received) ∧
      (∀ stage ∈ life backend.recorded timing used rest,
        stage = .closed used (.failed (alreadyUsed used.state))) ∧
      attempts backend.recorded timing start (first :: rest) =
        (used, outcome :: rest.map fun _ => .failed (alreadyUsed used.state)) := by
  intro start used outcome
  have begun : used.state ≠ .notRun := state_run_fresh_ne_notRun (memory, []) first
  refine ⟨isChain_state_life start (first :: rest), begun, ?_, ?_, ?_⟩
  · intro stage member
    rw [life, List.mem_append] at member
    obtain early | late := member
    · exact (within_of_mem_stages early).memory_begins
    · rw [eq_closed_of_mem_life begun rest late]
      -- the runner that is refused is the last moment of the first attempt
      have last : Stage.closed used outcome ∈ stages backend.recorded timing start first := by
        rw [stages_eq_concat]
        exact List.mem_append_right _ (List.mem_singleton_self _)
      exact (within_of_mem_stages last).memory_begins
  · exact fun stage member => eq_closed_of_mem_life begun rest member
  · calc
      attempts backend.recorded timing start (first :: rest) =
          ((attempts backend.recorded timing used rest).1,
            outcome :: (attempts backend.recorded timing used rest).2) := rfl
      _ = (used, outcome :: rest.map fun _ => .failed (alreadyUsed used.state)) := by
        rw [attempts_of_used begun]

end Runner
end Rehearsal
