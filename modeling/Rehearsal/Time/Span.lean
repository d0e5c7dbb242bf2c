import Rehearsal.Time.Instant

/-!
# Spans of time

How far it is from one instant to another, in numbers of 64 bits with a sign. A span is kept as
whole seconds, rounded down, and the nanoseconds beyond them. There is no span, and no result,
where a number does not fit.
-/

namespace Rehearsal

/-- A number, if it fits into 64 bits with a sign. -/
def signed? (n : Int) : Option Int :=
  if -9223372036854775808 ≤ n && n < 9223372036854775808 then some n else none

/-- A length of time with a direction. -/
structure Span where
  seconds : Int
  nanos : Nat
  deriving DecidableEq, Repr

namespace Span

open Instant (nanosPerSecond)

/-- All of a span in nanoseconds. -/
def nanoseconds (s : Span) : Int := s.seconds * nanosPerSecond + s.nanos

/-- The longest span, either way, has as many milliseconds as fit. -/
def limit : Int := 9223372036854775807 * 1000000

/-- A span that is not too long. -/
def make? (seconds : Int) (nanos : Nat) : Option Span :=
  let span : Span := ⟨seconds, nanos⟩
  if -limit ≤ span.nanoseconds && span.nanoseconds ≤ limit then some span else none

/-- A number of days. -/
def ofDays? (days : Int) : Option Span := do
  let seconds ← signed? (days * 86400)
  make? seconds 0

/-- One span behind the other. -/
def add? (a b : Span) : Option Span := do
  let seconds ← signed? (a.seconds + b.seconds)
  let nanos := a.nanos + b.nanos
  if nanos < nanosPerSecond then make? seconds nanos
  else
    let seconds ← signed? (seconds + 1)
    make? seconds (nanos - nanosPerSecond)

/-- The whole milliseconds, toward zero. -/
def milliseconds? (s : Span) : Option Int := do
  -- the seconds toward zero, and what is left in the same direction
  let behind := s.seconds < 0 && 0 < s.nanos
  let seconds := if behind then s.seconds + 1 else s.seconds
  let nanos : Int := if behind then s.nanos - nanosPerSecond else s.nanos
  let whole ← signed? (seconds * 1000)
  signed? (whole + nanos.tdiv 1000000)

end Span

namespace Instant

/-- How far it is from one time of day to another. A leap second counts if the other clock shows
a later second. -/
def clockSpan? (start finish : Instant) : Option Span := do
  let difference := (finish.second : Int) - start.second
  let seconds ←
    if start.second < finish.second && nanosPerSecond ≤ start.nano then signed? (difference + 1)
    else if finish.second < start.second && nanosPerSecond ≤ finish.nano then
      signed? (difference - 1)
    else signed? difference
  let nanos := (finish.nano : Int) - start.nano
  let seconds ← signed? (seconds + nanos / nanosPerSecond)
  Span.make? seconds (nanos % nanosPerSecond).toNat

/-- How far it is from one instant to another: the days between them and the difference of the
times of day. -/
def until? (start finish : Instant) : Option Span := do
  let days ← Span.ofDays? (finish.day - start.day)
  let clock ← clockSpan? start finish
  days.add? clock

end Instant
end Rehearsal
