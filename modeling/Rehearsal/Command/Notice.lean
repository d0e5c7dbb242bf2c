import Rehearsal.Report

/-!
# Notices

What the command says about a run while it goes on, line by line. Notices are
for people: nothing depends on them, and a quiet command has none.
-/

namespace Rehearsal

/-- Something to say about a run. -/
inductive Notice where
  /-- The calls of a scenario are about to go to an engine. -/
  | started (scenario restUrl : String)
  | answered (record : CallRecord)
  | finished (report : Report)

/-- How notices are shown. -/
structure Reporter where
  quiet : Bool
  /-- Signs instead of words. -/
  colored : Bool
  /-- Colors and weights of signs are asked of the terminal. -/
  escapes : Bool
  deriving DecidableEq

namespace Reporter

/-- Asks a terminal for a way to show what comes next. -/
def escape (code : Nat) : String := s!"\x1b[{code}m"

/-- A text shown in several ways at once, and what comes after it in none. -/
def styled (r : Reporter) (codes : List Nat) (s : String) : String :=
  if r.escapes then String.join (codes.map escape) ++ s ++ escape 0 else s

/-- The line of a notice. -/
def line (r : Reporter) : Notice → String
  | .started scenario restUrl =>
    let title := s!"{scenario} -> {restUrl}"
    if r.colored then r.styled [1, 4] title else s!"=== {title} ==="
  | .answered record =>
    let sign := if r.colored then r.styled [32, 1] "✓" else "OK"
    let time := s!"({record.duration}ms)"
    let time := if r.colored then r.styled [2] time else time
    s!"{sign} {record.resource}.{record.action} #{record.payloadIndex} {time}"
  | .finished report =>
    let sign := if r.colored then r.styled [34, 1] "ℹ" else "INFO"
    -- the times of a run leave room for their sum
    let total := report.totalDuration?.getD 0
    let times := s!"{total}ms in engine, {report.wallTime}ms total"
    s!"{sign} {report.calls.length} calls, {times} (run {report.runId})"

/-- The lines of notices. -/
def lines (r : Reporter) (notices : List Notice) : List String :=
  if r.quiet then [] else notices.map r.line

/-- The text of notices, each with its line ended. -/
def text (r : Reporter) (notices : List Notice) : String :=
  String.join ((r.lines notices).map fun line => line ++ "\n")

end Reporter
end Rehearsal
