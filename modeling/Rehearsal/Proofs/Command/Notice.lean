import Rehearsal.Command.Run
import Rehearsal.Proofs.Report.Times
import Rehearsal.Proofs.Text.Line

/-!
# Lines of notices

A line says which scenario goes to which engine, which call has been answered, or what a run
comes to, in words or in signs and colors; `Notice.Says` has what stands in it. A reporter
shows each notice by such a line. It is one line, whichever way it is shown, unless a name in
it brings a line end of its own.
-/

namespace Rehearsal

open Text

/-- How a reporter shows a text that words stand for where there are no colors. In colors,
terminals that can be asked are asked for numbered ways to show the text. -/
inductive Reporter.Shows (r : Reporter) (s words : String) : String → Prop
  | words (plain : r.colored = false) : Shows r s words words
  | bare (colored : r.colored = true) (unasked : r.escapes = false) : Shows r s words s
  | styled (colored : r.colored = true) (asked : r.escapes = true) (codes : List Nat) :
      Shows r s words
        (String.join (codes.map fun code => "\x1b[" ++ code.repr ++ "m") ++ s ++ "\x1b[0m")

namespace Notice

/-- What the line of a notice says. A header has the scenario and the engine. The line of a
call has the names of the call, its position in the operation, and how long it took. A
summary has the number of calls, the time in the engine and that of the run, and the name of
the run. -/
inductive Says (r : Reporter) : Notice → String → Prop
  | header {scenario restUrl line : String}
      (title : r.Shows (scenario ++ " -> " ++ restUrl)
        ("=== " ++ (scenario ++ " -> " ++ restUrl) ++ " ===") line) :
      Says r (.started scenario restUrl) line
  | call {record : CallRecord} {sign time : String} (good : r.Shows "✓" "OK" sign)
      (took : r.Shows ("(" ++ record.duration.repr ++ "ms)")
        ("(" ++ record.duration.repr ++ "ms)") time) :
      Says r (.answered record)
        (sign ++ " " ++ record.resource ++ "." ++ record.action ++ " #" ++
          record.payloadIndex.repr ++ " " ++ time)
  | summary {report : Report} {sign : String} (info : r.Shows "ℹ" "INFO" sign) :
      Says r (.finished report)
        (sign ++ " " ++ report.calls.length.repr ++ " calls, " ++
          (report.engineTime.repr ++ "ms in engine, " ++ report.wallTime.repr ++ "ms total") ++
          " (run " ++ report.runId ++ ")")

/-- The times of the calls in a notice have a sum in 64 bits. -/
def AddsUp : Notice → Prop
  | .finished report => report.engineTime < 2 ^ 64
  | _ => True

/-- The names in a notice have no line ends. -/
def IsPlain : Notice → Prop
  | .started scenario restUrl => IsLine scenario ∧ IsLine restUrl
  | .answered record => IsLine record.resource ∧ IsLine record.action
  | .finished report => IsLine report.runId

end Notice

namespace Reporter

variable {r : Reporter} {s words line : String} {notice : Notice}

theorem shows_styled (r : Reporter) (codes : List Nat) (s words : String) :
    r.Shows s words (if r.colored then r.styled codes s else words) := by
  cases colored : r.colored with
  | false => exact .words colored
  | true =>
    rw [if_pos rfl, styled]
    cases asked : r.escapes with
    | false => exact .bare colored asked
    | true => exact .styled colored asked codes

/-- The line of a notice says what is to be said of it. -/
theorem says_line (r : Reporter) (addsUp : notice.AddsUp) : notice.Says r (r.line notice) := by
  cases notice with
  | started scenario restUrl => exact .header (r.shows_styled [1, 4] _ _)
  | answered record => exact .call (r.shows_styled [32, 1] _ _) (r.shows_styled [2] _ _)
  | finished report =>
    have total : report.totalDuration? = some report.engineTime :=
      (report.totalDuration?_eq_some_iff _).mpr ⟨rfl, addsUp⟩
    rw [line, total]
    exact .summary (r.shows_styled [34, 1] _ _)

/-- Showing a text in colors puts no line end into it. -/
theorem Shows.isLine_iff (h : r.Shows s words line) (same : IsLine words ↔ IsLine s) :
    IsLine line ↔ IsLine s := by
  cases h with
  | words => exact same
  | bare => rfl
  | styled _ _ codes =>
    have front : IsLine (String.join (codes.map fun code => "\x1b[" ++ code.repr ++ "m")) := by
      rw [isLine_join, List.forall_mem_map]
      intro code _
      simp +decide
    have behind : IsLine "\x1b[0m" := by decide
    simp only [isLine_append, front, behind, true_and, and_true]

end Reporter

/-- The line of a notice is one line exactly if the names in it have no line ends. -/
theorem Notice.Says.isLine_iff {r : Reporter} {notice : Notice} {line : String}
    (h : notice.Says r line) : IsLine line ↔ notice.IsPlain := by
  cases h with
  | header title =>
    rw [title.isLine_iff (by simp +decide)]
    simp +decide [IsPlain]
  | call good took =>
    have sign := (good.isLine_iff (by decide)).mpr (by decide)
    have time := (took.isLine_iff Iff.rfl).mpr (by simp +decide)
    simp +decide [IsPlain, sign, time]
  | summary info =>
    have sign := (info.isLine_iff (by decide)).mpr (by decide)
    simp +decide [IsPlain, sign]

end Rehearsal
