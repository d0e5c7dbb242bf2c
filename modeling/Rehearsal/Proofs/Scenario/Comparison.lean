import Mathlib.Data.List.Forall2
import Rehearsal.Proofs.Scenario.Run

/-!
# Runs over backends that answer alike

Two backends answer alike, as far as a relation between their memories is kept, if related
memories give the same reply to every call and lead to related memories. Runs of a scenario
over such backends come to the same: what they leave behind is related, and they end in the
same way. Their reports differ in what the clock says and in the name of the run only.
-/

namespace Rehearsal

/-- The record without its duration. -/
def CallRecord.untimed (r : CallRecord) : CallRecord := { r with duration := 0 }

/-- The report without the name of the run and without times and durations. -/
def Report.untimed (r : Report) : Report where
  runId := ""
  startedAt := ⟨0, 0, 0⟩
  finishedAt := ⟨0, 0, 0⟩
  calls := r.calls.map CallRecord.untimed

/-- Ends of runs that differ in the name of the run and in times and durations only. -/
inductive Outcome.Alike : Outcome → Outcome → Prop
  | finished {r r' : Report} (same : r.untimed = r'.untimed) : Alike (.finished r) (.finished r')
  | failed (e : Error) : Alike (.failed e) (.failed e)
  | abandoned : Alike .abandoned .abandoned

namespace Backend

variable {β γ : Type} {R : β → γ → Prop} {first : Backend β} {second : Backend γ}
variable {memory last : β} {memory' : γ} {calls : List Call} {responses : List Json}

/-- From related memories, both backends give the same reply to a call, and get to related
memories. -/
def Alike (R : β → γ → Prop) (first : Backend β) (second : Backend γ) : Prop :=
  ∀ memory memory' c, R memory memory' →
    (first.reply memory c).2 = (second.reply memory' c).2 ∧
      R (first.reply memory c).1 (second.reply memory' c).1

/-- Backends that answer alike serve the same calls. -/
theorem Alike.serves (alike : Alike R first second) (start : R memory memory')
    (h : first.Serves memory calls responses last) :
    ∃ last', second.Serves memory' calls responses last' ∧ R last last' := by
  induction h generalizing memory' with
  | nil => exact ⟨memory', .nil, start⟩
  | @cons memory next last c calls response responses head tail ih =>
    obtain ⟨same, related⟩ := alike memory memory' c start
    rw [head] at same related
    obtain ⟨last', rest, ended⟩ := ih related
    exact ⟨last', .cons (Prod.ext rfl same.symm) rest, ended⟩

end Backend

namespace Runner

open Backend

variable {β γ : Type} {R : β → γ → Prop} {first : Backend β} {second : Backend γ}
variable {memory last : β} {memory' : γ} {calls : List Call} {responses : List Json}

/-- Records of the same answers differ in their durations only. -/
theorem map_untimed_records (timing timing' : Timing) (calls : List Call)
    (responses : List Json) :
    (records timing 0 calls responses).map CallRecord.untimed =
      (records timing' 0 calls responses).map CallRecord.untimed := by
  refine List.ext_getElem (by simp [records]) fun i _ _ => ?_
  simp [records, record, CallRecord.untimed]

/-- Runs over backends that answer alike. -/
theorem run_alike (alike : Alike R first second) (start : R memory memory')
    (timing timing' : Timing) (scenario : Scenario) :
    R (run first timing (fresh memory) scenario).1.memory
        (run second timing' (fresh memory') scenario).1.memory ∧
      (run first timing (fresh memory) scenario).2.Alike
        (run second timing' (fresh memory') scenario).2 := by
  obtain ⟨responses, last, served⟩ | ⟨before, c, after, responses, middle, split, served, stop⟩ :=
    serves_or_stops first memory scenario.calls
  · obtain ⟨last', served', related⟩ := alike.serves start served
    rw [run_of_serves served, run_of_serves served']
    refine ⟨related, .finished ?_⟩
    simp only [Report.untimed, map_untimed_records timing timing']
  · obtain ⟨middle', served', related⟩ := alike.serves start served
    obtain ⟨same, ended⟩ := alike middle middle' c related
    -- both runs end with the reply to the same call
    cases answer : first.reply middle c with
    | mk last reply =>
      have answer' : second.reply middle' c = ((second.reply middle' c).1, reply) := by
        rw [answer] at same
        exact Prod.ext rfl same.symm
      rw [answer] at ended
      cases reply with
      | response response => exact absurd (congrArg Prod.snd answer) (stop response)
      | failure e =>
        rw [run_of_failure split served answer, run_of_failure split served' answer']
        exact ⟨ended, .failed _⟩
      | abandoned =>
        rw [run_of_abandoned split served answer, run_of_abandoned split served' answer']
        exact ⟨ended, .abandoned⟩

/-- A run that has finished leaves the report of its calls. -/
theorem covers_of_finished {timing : Timing} {scenario : Scenario} {report : Report}
    (finished : (run first timing (fresh memory) scenario).2 = .finished report) :
    ∃ responses, report.Covers timing scenario.calls responses := by
  obtain ⟨responses, last, served⟩ | ⟨before, c, after, responses, middle, split, served, stop⟩ :=
    serves_or_stops first memory scenario.calls
  · rw [run_of_serves served] at finished
    cases finished
    exact ⟨responses, covers_records timing served⟩
  · exact absurd finished (not_finished_of_stop split served stop report)

end Runner
end Rehearsal
