import Mathlib.Algebra.Group.Int.Defs
import Rehearsal.Proofs.Time.Instant
import Rehearsal.Time.Span

/-!
# Spans are exact

A span of less than a thousand million million seconds is found, added to another one and counted
in milliseconds without a number that does not fit. The days between two instants that can be
shown are such a span, and so is the difference of their times of day; so the milliseconds from
one to the other are there, and are those that the exact difference has.
-/

namespace Rehearsal

theorem signed?_of_fits {n : Int} (low : -2 ^ 63 ≤ n) (high : n < 2 ^ 63) : signed? n = some n := by
  have within : (decide (-9223372036854775808 ≤ n) && decide (n < 9223372036854775808)) = true := by
    rw [Bool.and_eq_true, decide_eq_true_eq, decide_eq_true_eq]
    exact ⟨low, high⟩
  exact if_pos within

namespace Span

/-- A span of at most so many seconds either way, with less than a second beyond. -/
structure Within (s : Span) (n : Int) : Prop where
  low : -n ≤ s.seconds
  high : s.seconds ≤ n
  nanos : s.nanos < 1000000000

section Within

variable {s a b : Span} {n m : Int}

theorem nanoseconds_eq (s : Span) : s.nanoseconds = s.seconds * 1000000000 + s.nanos := rfl

theorem make?_of_within (h : s.Within n) (few : n ≤ 10 ^ 15) :
    make? s.seconds s.nanos = some s := by
  obtain ⟨low, high, nanos⟩ := h
  have short : (decide (-limit ≤ s.nanoseconds) && decide (s.nanoseconds ≤ limit)) = true := by
    rw [Bool.and_eq_true, decide_eq_true_eq, decide_eq_true_eq, nanoseconds_eq, limit]
    omega
  rw [make?]
  exact if_pos short

/-- Seconds, and a part of a second in the same direction, are rounded toward zero apart. -/
theorem tdiv_million {whole part : Int} (same : 0 ≤ whole ∧ 0 ≤ part ∨ whole ≤ 0 ∧ part ≤ 0) :
    whole * 1000 + part.tdiv 1000000 = (whole * 1000000000 + part).tdiv 1000000 := by
  have sign : (1000000 : Int).sign = 1 := rfl
  rw [Int.tdiv_eq_ediv, Int.tdiv_eq_ediv, sign]
  split <;> split <;> omega

/-- The milliseconds of a span are those of its seconds toward zero, and of what is left. -/
theorem milliseconds_of_parts {whole part : Int}
    (total : s.nanoseconds = whole * 1000000000 + part)
    (same : 0 ≤ whole ∧ 0 ≤ part ∨ whole ≤ 0 ∧ part ≤ 0)
    (few : -10 ^ 15 ≤ whole ∧ whole ≤ 10 ^ 15) (little : -10 ^ 9 ≤ part ∧ part ≤ 10 ^ 9) :
    (signed? (whole * 1000) >>= fun millis => signed? (millis + part.tdiv 1000000)) =
      some (s.nanoseconds.tdiv 1000000) := by
  have least : -10 ^ 9 ≤ part.tdiv 1000000 ∧ part.tdiv 1000000 ≤ 10 ^ 9 := by
    have sign : (1000000 : Int).sign = 1 := rfl
    rw [Int.tdiv_eq_ediv, sign]
    split <;> omega
  rw [signed?_of_fits (by omega) (by omega), total, ← tdiv_million same]
  exact signed?_of_fits (by omega) (by omega)

/-- The milliseconds of a short span are exact. -/
theorem milliseconds?_of_within (h : s.Within n) (few : n ≤ 10 ^ 15) :
    s.milliseconds? = some (s.nanoseconds.tdiv 1000000) := by
  obtain ⟨low, high, nanos⟩ := h
  have second : (Instant.nanosPerSecond : Int) = 1000000000 := rfl
  have total := s.nanoseconds_eq
  rw [milliseconds?]
  by_cases behind : (decide (s.seconds < 0) && decide (0 < s.nanos)) = true
  · rw [if_pos behind, if_pos behind, second]
    rw [Bool.and_eq_true, decide_eq_true_eq, decide_eq_true_eq] at behind
    exact milliseconds_of_parts (by omega) (by omega) (by omega) (by omega)
  · rw [if_neg behind, if_neg behind]
    rw [Bool.and_eq_true, decide_eq_true_eq, decide_eq_true_eq] at behind
    exact milliseconds_of_parts total (by omega) (by omega) (by omega)

/-- Short spans are added. -/
theorem add?_of_within (first : a.Within n) (second : b.Within m) (few : n + m < 10 ^ 15) :
    ∃ s : Span, a.add? b = some s ∧ s.Within (n + m + 1) ∧
      s.nanoseconds = a.nanoseconds + b.nanoseconds := by
  obtain ⟨aLow, aHigh, aNanos⟩ := first
  obtain ⟨bLow, bHigh, bNanos⟩ := second
  rw [a.nanoseconds_eq, b.nanoseconds_eq, add?, signed?_of_fits (by omega) (by omega)]
  by_cases part : a.nanos + b.nanos < Instant.nanosPerSecond
  · have sum : Within ⟨a.seconds + b.seconds, a.nanos + b.nanos⟩ (n + m + 1) :=
      ⟨by dsimp only; omega, by dsimp only; omega, part⟩
    refine ⟨_, ?_, sum, ?_⟩
    · exact (if_pos part).trans (make?_of_within sum (by omega))
    · rw [nanoseconds_eq]
      dsimp only
      omega
  · have carried : signed? (a.seconds + b.seconds + 1) = some (a.seconds + b.seconds + 1) :=
      signed?_of_fits (by omega) (by omega)
    have sum : Within ⟨a.seconds + b.seconds + 1, a.nanos + b.nanos - Instant.nanosPerSecond⟩
        (n + m + 1) := by
      rw [Instant.nanosPerSecond] at part ⊢
      exact ⟨by dsimp only; omega, by dsimp only; omega, by dsimp only; omega⟩
    refine ⟨_, ?_, sum, ?_⟩
    · refine (if_neg part).trans ?_
      rw [carried]
      exact make?_of_within sum (by omega)
    · rw [nanoseconds_eq]
      rw [Instant.nanosPerSecond] at part ⊢
      dsimp only
      omega

/-- A number of days that are not too many. -/
theorem ofDays?_of_le (days : Int) (low : -10 ^ 9 ≤ days) (high : days ≤ 10 ^ 9) :
    ∃ s : Span, ofDays? days = some s ∧ s.Within (86400 * 10 ^ 9) ∧
      s.nanoseconds = days * 86400 * 1000000000 := by
  have fits : signed? (days * 86400) = some (days * 86400) := signed?_of_fits (by omega) (by omega)
  have short : Within ⟨days * 86400, 0⟩ (86400 * 10 ^ 9) :=
    ⟨by dsimp only; omega, by dsimp only; omega, Nat.zero_lt_succ _⟩
  refine ⟨_, ?_, short, Int.add_zero _⟩
  rw [ofDays?, fits]
  exact make?_of_within short (by decide)

/-- Seconds, and nanoseconds that may be more than a second either way. -/
theorem exists_carried {nanos : Int} (seconds : Int)
    (few : -86401 ≤ seconds ∧ seconds ≤ 86401) (little : -2000000000 < nanos ∧ nanos < 2000000000) :
    ∃ s : Span, (signed? seconds >>= fun seconds =>
        signed? (seconds + nanos / 1000000000) >>= fun seconds =>
          make? seconds (nanos % 1000000000).toNat) = some s ∧
      s.Within 86403 ∧ s.nanoseconds = seconds * 1000000000 + nanos := by
  have carried : signed? (seconds + nanos / 1000000000) = some (seconds + nanos / 1000000000) :=
    signed?_of_fits (by omega) (by omega)
  have short : Within ⟨seconds + nanos / 1000000000, (nanos % 1000000000).toNat⟩ 86403 :=
    ⟨by dsimp only; omega, by dsimp only; omega, by dsimp only; omega⟩
  refine ⟨_, ?_, short, ?_⟩
  · rw [signed?_of_fits (by omega) (by omega)]
    change (signed? (seconds + nanos / 1000000000) >>= _) = _
    rw [carried]
    exact make?_of_within short (by decide)
  · rw [nanoseconds_eq]
    dsimp only
    omega

end Within

end Span

namespace Instant

variable {start finish : Instant}

/-- The difference of two times of day is found, leap seconds included. -/
theorem clockSpan?_of_representable (first : start.Representable) (last : finish.Representable) :
    ∃ s : Span, start.clockSpan? finish = some s ∧ s.Within 86403 ∧
      (finish.day - start.day) * 86400 * 1000000000 + s.nanoseconds =
        start.nanosUntil finish := by
  obtain ⟨-, -, startClock, startNano, -⟩ := first
  obtain ⟨-, -, finishClock, finishNano, -⟩ := last
  have little : -2000000000 < (finish.nano : Int) - start.nano ∧
      (finish.nano : Int) - start.nano < 2000000000 := by
    rw [nanosPerSecond] at startNano finishNano
    omega
  rw [clockSpan?, nanosUntil]
  dsimp only
  by_cases ahead : (decide (start.second < finish.second) &&
      decide (nanosPerSecond ≤ start.nano)) = true
  · rw [if_pos ahead, if_pos ahead]
    obtain ⟨s, made, short, total⟩ :=
      Span.exists_carried ((finish.second : Int) - start.second + 1) (by omega) little
    exact ⟨s, made, short, by rw [total, nanosPerSecond]; omega⟩
  rw [if_neg ahead, if_neg ahead]
  by_cases behind : (decide (finish.second < start.second) &&
      decide (nanosPerSecond ≤ finish.nano)) = true
  · rw [if_pos behind, if_pos behind]
    obtain ⟨s, made, short, total⟩ :=
      Span.exists_carried ((finish.second : Int) - start.second - 1) (by omega) little
    exact ⟨s, made, short, by rw [total, nanosPerSecond]; omega⟩
  · rw [if_neg behind, if_neg behind]
    obtain ⟨s, made, short, total⟩ :=
      Span.exists_carried ((finish.second : Int) - start.second) (by omega) little
    exact ⟨s, made, short, by rw [total, nanosPerSecond]; omega⟩

/-- Between instants that can be shown no number is too large. -/
theorem until?_of_representable (first : start.Representable) (last : finish.Representable) :
    ∃ s : Span, start.until? finish = some s ∧
      s.milliseconds? = some (start.millisUntil finish) := by
  obtain ⟨clock, clockMade, clockShort, total⟩ := clockSpan?_of_representable first last
  obtain ⟨startLow, startHigh, -⟩ := first
  obtain ⟨finishLow, finishHigh, -⟩ := last
  have least : Date.toDays ⟨Date.minYear, 1, 1⟩ = -96465292 := by decide
  have most : Date.toDays ⟨Date.maxYear, 12, 31⟩ = 95026236 := by decide
  obtain ⟨days, daysMade, daysShort, whole⟩ :=
    Span.ofDays?_of_le (finish.day - start.day) (by omega) (by omega)
  obtain ⟨s, made, short, sum⟩ := Span.add?_of_within daysShort clockShort (by decide)
  refine ⟨s, ?_, ?_⟩
  · rw [until?, daysMade, clockMade]
    exact made
  · rw [Span.milliseconds?_of_within short (by decide), sum, whole, total, millisUntil]

end Instant
end Rehearsal
