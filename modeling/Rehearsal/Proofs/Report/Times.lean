import Rehearsal.Proofs.Json.Invariant
import Rehearsal.Proofs.Time.Elapsed
import Rehearsal.Proofs.Time.Span
import Rehearsal.Proofs.Report.Notation

/-!
# The times of a report

What the two sums of a report are for every report that is read. The time of the calls is added
up in 64 bits without a sign: it is exact, or not there if it does not fit. The time from the
beginning to the end is always there, as the instants that are read are never too far from each
other; it is the time that has passed, but for leap seconds that the clocks of two days hide.
-/

namespace Rehearsal.Report

open Json Instant

/-! ### The time of the calls -/

/-- A sum in 64 bits is the exact sum, if that fits. -/
theorem foldlM_addTime?_eq_some_iff {times : List Nat} {total n : Nat} (fits : total < 2 ^ 64) :
    times.foldlM addTime? total = some n ↔ total + times.foldr (· + ·) 0 = n ∧ n < 2 ^ 64 := by
  induction times generalizing total with
  | nil =>
    rw [List.foldlM_nil, List.foldr_nil, Nat.add_zero]
    constructor
    · intro same
      obtain rfl := Option.some.inj same
      exact ⟨rfl, fits⟩
    · rintro ⟨rfl, -⟩
      rfl
  | cons time times ih =>
    have limit : 1 <<< 64 = 2 ^ 64 := rfl
    rw [List.foldlM_cons, List.foldr_cons, addTime?, limit]
    by_cases next : total + time < 2 ^ 64
    · rw [if_pos next]
      exact (ih next).trans (by rw [Nat.add_assoc])
    · rw [if_neg next]
      constructor
      · intro none
        nomatch none
      · rintro ⟨rfl, small⟩
        omega

theorem totalDuration?_eq_some_iff (report : Report) (n : Nat) :
    report.totalDuration? = some n ↔ report.engineTime = n ∧ n < 2 ^ 64 := by
  rw [totalDuration?, foldlM_addTime?_eq_some_iff (by decide), Nat.zero_add, engineTime]

/-! ### The time from the beginning to the end -/

theorem wallTime?_of_representable {report : Report} (first : report.startedAt.Representable)
    (last : report.finishedAt.Representable) : report.wallTime? = some report.wallTime := by
  obtain ⟨span, made, millis⟩ := until?_of_representable first last
  have most : (max (report.startedAt.millisUntil report.finishedAt) 0).toNat = report.wallTime := by
    rw [wallTime]
    omega
  rw [wallTime?, made]
  change (span.milliseconds? >>= _) = _
  rw [millis]
  exact congrArg some most

/-- A length is rounded down, and no length is shorter than nothing. -/
theorem toNat_tdiv (nanos : Int) : (nanos.tdiv 1000000).toNat = (nanos / 1000000).toNat := by
  have sign : (1000000 : Int).sign = 1 := rfl
  rw [Int.tdiv_eq_ediv, sign]
  split <;> omega

/-! ### Reports that are read -/

theorem yields_instant : Yields instant Instant.Representable :=
  yields_textAs fun _ _ made => representable_of_parse (eq_ok_of_mapError made)

/-- Both ends of a report that is read can be shown. -/
theorem representable_of_read {input : String} {report : Report}
    (read : parse input = .ok report) :
    report.startedAt.Representable ∧ report.finishedAt.Representable := by
  have any {α : Type} (reader : Reader α) : Yields reader fun _ => True :=
    fun _ _ _ _ => trivial
  have start : (⟨0, 0, 0⟩ : Instant).Representable :=
    representable_of_year (by decide) (by decide) (by decide) (by decide)
  have yields : Yields (record shape maxDepth) fun report : Report =>
      report.startedAt.Representable ∧ report.finishedAt.Representable := by
    refine yields_record ⟨start, start⟩ ?_ maxDepth
    simp only [shape, List.forall_mem_cons]
    refine ⟨?_, ?_, ?_, ?_, List.forall_mem_nil _⟩
    · exact keeps_textField (fun _ => any text) fun _ _ ends _ => ends
    · exact keeps_textField (fun _ => yields_instant) fun _ _ ends first => ⟨first, ends.2⟩
    · exact keeps_textField (fun _ => yields_instant) fun _ _ ends last => ⟨ends.1, last⟩
    · exact keeps_textField (fun depth => any (list (record CallRecord.shape) depth))
        fun _ _ ends _ => ends
  exact yields.document read

/-- The times of every report that is read. The time of the calls is their exact sum, or not there
if 64 bits are too few for it. The wall time is always there: the time that has passed, less the
leap seconds that are missing, or, where the end comes first, what these have over the time back.
It is exact where none is missing: nothing where the end comes first, and the whole milliseconds
otherwise. -/
theorem times_of_parse {input : String} {report : Report} (read : parse input = .ok report) :
    let start := report.startedAt
    let finish := report.finishedAt
    (∀ n, report.totalDuration? = some n ↔ report.engineTime = n ∧ n < 2 ^ 64) ∧
      (finish.Before start → report.wallTime? =
        some ((finish.missed start * nanosPerSecond - finish.elapsed start) / 1000000).toNat) ∧
      (¬finish.Before start → report.wallTime? =
        some ((start.elapsed finish - start.missed finish * nanosPerSecond) / 1000000).toNat) ∧
      (start.missed finish = 0 → finish.missed start = 0 → report.wallTime? =
        some (if finish.Before start then 0 else (start.elapsed finish / 1000000).toNat)) := by
  intro start finish
  obtain ⟨first, last⟩ := representable_of_read read
  have wall : report.wallTime? = some (start.nanosUntil finish / 1000000).toNat := by
    rw [wallTime?_of_representable first last, wallTime, millisUntil, toNat_tdiv]
  have backward (order : finish.Before start) : start.nanosUntil finish =
      finish.missed start * nanosPerSecond - finish.elapsed start := by
    rw [nanosUntil_comm, nanosUntil_of_not_before last.second first.second order.asymm, Int.neg_sub]
  have forward (order : ¬finish.Before start) : start.nanosUntil finish =
      start.elapsed finish - start.missed finish * nanosPerSecond :=
    nanosUntil_of_not_before first.second last.second order
  refine ⟨totalDuration?_eq_some_iff report, ?_, ?_, ?_⟩
  · intro order
    rw [wall, backward order]
  · intro order
    rw [wall, forward order]
  · intro ahead behind
    by_cases order : finish.Before start
    · have positive : 0 ≤ finish.elapsed start := elapsed_nonneg last.nano order.asymm
      rw [wall, if_pos order, backward order, behind]
      congr 1
      omega
    · rw [wall, if_neg order, forward order, ahead, Int.zero_mul, Int.sub_zero]

/-- A test of an outcome finds what it is the outcome of. -/
theorem exists_ok_and {ε α : Type} {outcome : Except ε α} {P : α → Prop} [DecidablePred P]
    (found : outcome.toOption.any (fun x => decide (P x)) = true) :
    ∃ x, outcome = .ok x ∧ P x := by
  cases outcome with
  | error m => nomatch found
  | ok x => exact ⟨x, rfl, of_decide_eq_true found⟩

/-- The longest time there is, with a leap second at its end, and the largest sum. -/
theorem times_of_longest :
    let text := "\x7b\"run_id\":\"\",\"started_at\":\"-262143-01-01T00:00:00Z\"," ++
      "\"finished_at\":\"+262142-12-31T23:59:60.999999999Z\",\"calls\":[" ++
      "[\"a\",\"b\",0,0,null,18446744073709551614],[\"a\",\"b\",0,1,null,1]]\x7d"
    ∃ report, parse text = .ok report ∧ report.totalDuration? = some 18446744073709551615 ∧
      report.wallTime? = some 16544868105600999 := by
  intro text
  obtain ⟨report, read, start, finish, sum⟩ : ∃ report, parse text = .ok report ∧
      report.startedAt = ⟨-96465292, 0, 0⟩ ∧ report.finishedAt = ⟨95026236, 86399, 1999999999⟩ ∧
      report.engineTime = 18446744073709551615 := exists_ok_and (by decide +kernel)
  obtain ⟨total, -, forward, -⟩ := times_of_parse read
  rw [start, finish] at forward
  refine ⟨report, read, (total _).mpr ⟨sum, by decide⟩, ?_⟩
  exact (forward (by decide)).trans (by decide)

/-- Half of a leap second until midnight is taken for nothing, and a tenth of one back from
midnight for most of a second. A sum that is one millisecond too large is not there. -/
theorem times_of_hidden_seconds :
    (∃ report,
      parse ("\x7b\"run_id\":\"r\",\"started_at\":\"2016-12-31T23:59:60.500Z\"," ++
        "\"finished_at\":\"2017-01-01T00:00:00Z\",\"calls\":[]\x7d") = .ok report ∧
      ¬report.finishedAt.Before report.startedAt ∧
      report.startedAt.elapsed report.finishedAt / 1000000 = 500 ∧ report.wallTime? = some 0) ∧
    (∃ report,
      parse ("\x7b\"run_id\":\"r\",\"started_at\":\"2017-01-01T00:00:00Z\"," ++
        "\"finished_at\":\"2016-12-31T23:59:60.900Z\",\"calls\":[]\x7d") = .ok report ∧
      report.finishedAt.Before report.startedAt ∧ report.wallTime? = some 900) ∧
    ∃ report,
      parse ("\x7b\"run_id\":\"r\",\"started_at\":\"2017-01-01T00:00:00Z\"," ++
        "\"finished_at\":\"2017-01-01T00:00:00Z\",\"calls\":[" ++
        "[\"a\",\"b\",0,0,null,18446744073709551615],[\"a\",\"b\",0,1,null,1]]\x7d") = .ok report ∧
      report.engineTime = 2 ^ 64 ∧ report.totalDuration? = none := by
  refine ⟨exists_ok_and ?_, exists_ok_and ?_, exists_ok_and ?_⟩
  all_goals decide +kernel

end Rehearsal.Report
