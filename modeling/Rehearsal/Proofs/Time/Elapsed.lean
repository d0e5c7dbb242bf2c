import Rehearsal.Time.Instant

/-!
# The time that passes

What a difference of instants should be, and what it is. The time from one instant to a later one
is counted in nanoseconds, with the leap second that the first one lies in, as soon as that is
over. The difference compares days and times of day apart, and looks for leap seconds by the times
of day alone, so that between two days it misses some of them.
-/

namespace Rehearsal.Instant

/-- An instant in a leap second. -/
def IsLeap (t : Instant) : Prop := nanosPerSecond ≤ t.nano

/-- The seconds since the beginning of 1970, without the leap seconds. -/
def seconds (t : Instant) : Int := t.day * 86400 + t.second

/-- The first instant is earlier than the other one. -/
def Before (s t : Instant) : Prop :=
  s.seconds < t.seconds ∨ s.seconds = t.seconds ∧ s.nano < t.nano

instance (t : Instant) : Decidable t.IsLeap := inferInstanceAs (Decidable (_ ≤ _))

instance (s t : Instant) : Decidable (s.Before t) := inferInstanceAs (Decidable (_ ∨ _))

/-- The nanoseconds from one instant to another that is not earlier. The leap second of the first
one has passed at the end of its second. -/
def elapsed (start finish : Instant) : Int :=
  (finish.seconds - start.seconds) * nanosPerSecond + ((finish.nano : Int) - start.nano) +
    if start.seconds < finish.seconds ∧ start.IsLeap then (nanosPerSecond : Int) else 0

/-- The seconds by which the difference of two instants is too short, if they are not on one day:
one for a leap second of the first one at a time of day when the other one is not later, and one
for a leap second of the other one at a time of day when the first one is later. -/
def missed (start finish : Instant) : Int :=
  if start.day < finish.day then
    (if finish.second ≤ start.second ∧ start.IsLeap then 1 else 0) +
      (if finish.second < start.second ∧ finish.IsLeap then 1 else 0)
  else 0

variable {start finish : Instant}

theorem Before.asymm (order : finish.Before start) : ¬start.Before finish := by
  rw [Before] at *
  omega

/-- Nothing is missing between instants that are no leap seconds. -/
theorem missed_of_not_isLeap (first : ¬start.IsLeap) (last : ¬finish.IsLeap) :
    start.missed finish = 0 := by
  simp [missed, first, last]

/-- Nothing is missing between the instants of one day. -/
theorem missed_of_day_eq (day : start.day = finish.day) : start.missed finish = 0 :=
  if_neg (day ▸ Int.lt_irrefl _)

/-- No time runs backward. -/
theorem elapsed_nonneg (first : start.nano < 2 * nanosPerSecond) (order : ¬finish.Before start) :
    0 ≤ start.elapsed finish := by
  rw [Before, not_or, not_and] at order
  obtain ⟨clock, hand⟩ := order
  rw [elapsed]
  by_cases later : start.seconds < finish.seconds
  · by_cases leap : nanosPerSecond ≤ start.nano
    · rw [if_pos ⟨later, leap⟩]
      rw [nanosPerSecond] at *
      omega
    · rw [if_neg (fun both => leap both.2)]
      rw [nanosPerSecond] at *
      omega
  · have same : finish.seconds = start.seconds := by omega
    have := hand same
    rw [if_neg (fun both => later both.1), same, Int.sub_self, Int.zero_mul]
    omega

/-- The leap seconds that a difference of instants counts are found by the times of day. -/
theorem nanosUntil_eq (start finish : Instant) :
    start.nanosUntil finish =
      (finish.seconds - start.seconds) * nanosPerSecond + ((finish.nano : Int) - start.nano) +
        if start.second < finish.second ∧ start.IsLeap then (nanosPerSecond : Int)
        else if finish.second < start.second ∧ finish.IsLeap then -(nanosPerSecond : Int)
        else 0 := by
  have ahead : (decide (start.second < finish.second) && decide (nanosPerSecond ≤ start.nano)) =
      decide (start.second < finish.second ∧ start.IsLeap) := (Bool.decide_and _ _).symm
  have behind : (decide (finish.second < start.second) && decide (nanosPerSecond ≤ finish.nano)) =
      decide (finish.second < start.second ∧ finish.IsLeap) := (Bool.decide_and _ _).symm
  rw [nanosUntil, ahead, behind, seconds, seconds, nanosPerSecond]
  simp only [decide_eq_true_eq]
  repeat' split
  all_goals omega

/-- The way back is as long. -/
theorem nanosUntil_comm (start finish : Instant) :
    finish.nanosUntil start = -start.nanosUntil finish := by
  rw [nanosUntil_eq, nanosUntil_eq, nanosPerSecond]
  repeat' split
  all_goals omega

/-- The difference is the time that passes, less the seconds that are missing. -/
theorem nanosUntil_of_not_before (first : start.second < 86400) (last : finish.second < 86400)
    (order : ¬finish.Before start) :
    start.nanosUntil finish = start.elapsed finish - start.missed finish * nanosPerSecond := by
  rw [nanosUntil_eq, elapsed, missed]
  simp only [Before, seconds] at order
  obtain day | day : start.day < finish.day ∨ start.day = finish.day := by omega
  · have later : start.seconds < finish.seconds := by
      rw [seconds, seconds]
      omega
    rw [if_pos day]
    simp only [later, true_and]
    -- leap seconds are counted, missed or taken off as the clocks stand
    obtain clock | clock | clock := Nat.lt_trichotomy start.second finish.second
    · have onward : ¬finish.second < start.second := by omega
      have behind : ¬finish.second ≤ start.second := by omega
      simp only [clock, onward, behind, true_and, false_and, if_false]
      omega
    · have same : ¬start.second < finish.second := by omega
      simp only [clock, Nat.lt_irrefl, Nat.le_refl, true_and, false_and, if_false]
      split <;> omega
    · have onward : ¬start.second < finish.second := by omega
      have behind : finish.second ≤ start.second := by omega
      simp only [clock, onward, behind, true_and, false_and, if_false]
      split <;> split <;> omega
  · have clock : start.seconds < finish.seconds ↔ start.second < finish.second := by
      rw [seconds, seconds]
      omega
    have onward : ¬(finish.second < start.second ∧ finish.IsLeap) := by omega
    have together : ¬start.day < finish.day := by omega
    rw [if_neg together, if_neg onward, Int.zero_mul, Int.sub_zero]
    simp only [clock]

end Rehearsal.Instant
