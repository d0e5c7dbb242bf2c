import Rehearsal.Report
import Rehearsal.Scenario.Backend
import Rehearsal.Scenario.Basic

/-!
# Running scenarios

A runner makes the calls of one scenario, one after another. The first call
that fails ends the run, and the calls after it are not made. A runner runs
once: whatever came of the first attempt, also of one that was given up, every
later attempt is refused.
-/

namespace Rehearsal

/-- How far a runner has come. -/
inductive RunState where
  | notRun
  /-- Calls are being made, or the run was given up. -/
  | running
  /-- Every call was answered. -/
  | complete
  /-- A call failed. -/
  | failed
  deriving DecidableEq

namespace RunState

def name : RunState → String
  | .notRun => "NotRun"
  | .running => "Running"
  | .complete => "Complete"
  | .failed => "Failed"

def all : List RunState := [.notRun, .running, .complete, .failed]

def toJson (s : RunState) : Json := .str s.name

/-- The state of a JSON text. -/
def parse (input : String) : Except Json.Fault RunState :=
  Json.document (Json.variant (all.map fun s => (s.name, s)) Json.maxDepth) input.toList

end RunState

/-- What a report says that the calls do not decide: when the run took place, how long
each call took, and the name of the run. The times of the calls come one after another on a
clock that counts its milliseconds in 64 bits. -/
structure Timing where
  runId : String
  startedAt : Instant
  finishedAt : Instant
  /-- The milliseconds that the call of a number took, counted from zero. -/
  duration : Nat → Nat
  fits : ∀ n, ((List.range n).map duration).foldr (· + ·) 0 < 1 <<< 64

/-- The timing of a run that takes no time. -/
def Timing.still (runId : String) : Timing where
  runId
  startedAt := ⟨0, 0, 0⟩
  finishedAt := ⟨0, 0, 0⟩
  duration _ := 0
  fits n := by
    have none : ((List.range n).map fun _ => 0).foldr (· + ·) 0 = 0 := by
      induction List.range n with
      | nil => rfl
      | cons _ _ ih => rw [List.map_cons, List.foldr_cons, ih]
    rw [none]
    decide

/-- What came of making calls. -/
inductive Issued where
  | answered (records : List CallRecord)
  | failed (e : Error)
  | abandoned

/-- What came of an attempt to run a scenario. -/
inductive Outcome where
  | finished (report : Report)
  | failed (e : Error)
  /-- The run was given up while an answer was due. -/
  | abandoned

/-- A runner and its backend's memory. -/
structure Runner (β : Type) where
  memory : β
  state : RunState

namespace Runner

variable {β : Type}

/-- A runner that has not run. -/
def fresh (memory : β) : Runner β := ⟨memory, .notRun⟩

/-- The record of an answered call. -/
def record (timing : Timing) (index : Nat) (c : Call) (response : Json) : CallRecord :=
  ⟨c.resource, c.action, c.operationIndex, c.payloadIndex, response, timing.duration index⟩

/-- Makes calls up to the first that is not answered. `index` calls came before. -/
def issue (backend : Backend β) (timing : Timing) : (index : Nat) → β → List Call → β × Issued
  | _, memory, [] => (memory, .answered [])
  | index, memory, c :: rest =>
    match backend.call memory c.resource c.action c.payload with
    | (memory, .response response) =>
      match issue backend timing (index + 1) memory rest with
      | (memory, .answered records) =>
        (memory, .answered (record timing index c response :: records))
      | (memory, other) => (memory, other)
    | (memory, .failure e) =>
      (memory, .failed (.setupFailed c.resource c.action c.payloadIndex e))
    | (memory, .abandoned) => (memory, .abandoned)

/-- Why a runner refuses to run. -/
def alreadyUsed (state : RunState) : Error :=
  .invalidState s!"scenario runner already used ({state.name})"

/-- Runs a scenario, unless the runner has been used. -/
def run (backend : Backend β) (timing : Timing) (runner : Runner β) (scenario : Scenario) :
    Runner β × Outcome :=
  if runner.state = .notRun then
    match issue backend timing 0 runner.memory scenario.calls with
    | (memory, .answered records) =>
      (⟨memory, .complete⟩, .finished ⟨timing.runId, timing.startedAt, timing.finishedAt, records⟩)
    | (memory, .failed e) => (⟨memory, .failed⟩, .failed e)
    | (memory, .abandoned) => (⟨memory, .running⟩, .abandoned)
  else (runner, .failed (alreadyUsed runner.state))

/-- One attempt after another on the same runner. -/
def attempts (backend : Backend β) (timing : Timing) :
    Runner β → List Scenario → Runner β × List Outcome
  | runner, [] => (runner, [])
  | runner, scenario :: rest =>
    let (runner, outcome) := run backend timing runner scenario
    let (runner, outcomes) := attempts backend timing runner rest
    (runner, outcome :: outcomes)

end Runner
end Rehearsal
