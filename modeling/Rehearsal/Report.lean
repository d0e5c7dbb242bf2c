import Rehearsal.Json.Typed
import Rehearsal.Time.Span

/-!
# Run reports

What a finished run leaves behind: one record for each call in the order of the
calls, and when the run began and ended.
-/

namespace Rehearsal

open Json

/-- A call that was answered. -/
structure CallRecord where
  resource : String
  action : String
  operationIndex : Nat
  payloadIndex : Nat
  response : Json
  /-- How long the answer took, in milliseconds. -/
  duration : Nat

/-- The report of a run in which every call was answered. -/
structure Report where
  runId : String
  startedAt : Instant
  finishedAt : Instant
  calls : List CallRecord

namespace CallRecord

def toJson (record : CallRecord) : Json :=
  .obj [("resource", .str record.resource), ("action", .str record.action),
    ("operation_index", .int record.operationIndex), ("payload_index", .int record.payloadIndex),
    ("response", record.response), ("duration_ms", .int record.duration)]

def shape : Shape CallRecord (Put CallRecord) where
  name := "CallRecord"
  start := ⟨"", "", 0, 0, .null, 0⟩
  fields :=
    [textField "resource" .refused (fun _ => text) fun r resource => { r with resource },
      textField "action" .refused (fun _ => text) fun r action => { r with action },
      textField "operation_index" .refused (fun _ => unsigned 64 "usize") fun r operationIndex =>
        { r with operationIndex },
      textField "payload_index" .refused (fun _ => unsigned 64 "usize") fun r payloadIndex =>
        { r with payloadIndex },
      textField "response" .refused value fun r response => { r with response },
      textField "duration_ms" .refused (fun _ => unsigned 64 "u64") fun r duration =>
        { r with duration }]

end CallRecord

namespace Report

/-- The time spent waiting for answers, in milliseconds. -/
def engineTime (report : Report) : Nat := (report.calls.map CallRecord.duration).foldr (· + ·) 0

/-- One more time to a sum, or `none` when that does not fit into 64 bits. -/
def addTime? (total time : Nat) : Option Nat :=
  if total + time < 1 <<< 64 then some (total + time) else none

/-- The time spent waiting for answers, call by call, or `none` when a sum on the way does not
fit. -/
def totalDuration? (report : Report) : Option Nat :=
  (report.calls.map CallRecord.duration).foldlM addTime? 0

/-- The whole milliseconds from the beginning to the end, zero when the end comes first. -/
def wallTime (report : Report) : Nat := (report.startedAt.millisUntil report.finishedAt).toNat

/-- The whole milliseconds from the beginning to the end by numbers of 64 bits with a sign, or
`none` when one of them does not fit. -/
def wallTime? (report : Report) : Option Nat := do
  let span ← report.startedAt.until? report.finishedAt
  let millis ← span.milliseconds?
  return (max millis 0).toNat

/-- The responses to an action, in the order of the calls. -/
def responsesFor (report : Report) (resource action : String) : List Json :=
  (report.calls.filter fun c => c.resource == resource && c.action == action).map
    CallRecord.response

def toJson (report : Report) : Json :=
  .obj [("run_id", .str report.runId), ("started_at", .str (String.ofList report.startedAt.text)),
    ("finished_at", .str (String.ofList report.finishedAt.text)),
    ("calls", .arr (report.calls.map CallRecord.toJson))]

/-- A point in time. -/
def instant : Reader Instant :=
  textAs "an RFC 3339 formatted date and time string" fun s =>
    (Instant.parse s.toList).mapError fun refusal => .other refusal.message

def shape : Shape Report (Put Report) where
  name := "ScenarioReport"
  start := ⟨"", ⟨0, 0, 0⟩, ⟨0, 0, 0⟩, []⟩
  fields :=
    [textField "run_id" .refused (fun _ => text) fun r runId => { r with runId },
      textField "started_at" .refused (fun _ => instant) fun r startedAt => { r with startedAt },
      textField "finished_at" .refused (fun _ => instant) fun r finishedAt => { r with finishedAt },
      textField "calls" .refused (list (record CallRecord.shape)) fun r calls => { r with calls }]

/-- The report of a JSON text. -/
def parse (input : String) : Except Fault Report :=
  document (record shape maxDepth) input.toList

end Report
end Rehearsal
