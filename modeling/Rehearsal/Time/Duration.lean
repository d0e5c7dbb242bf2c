/-!
# Lengths of time

How long something is waited for, exact to the nanosecond.
-/

namespace Rehearsal

/-- A length of time. -/
structure Duration where
  nanoseconds : Nat
  deriving DecidableEq

namespace Duration

def ofMilliseconds (n : Nat) : Duration := ⟨n * 1000000⟩

/-- The whole milliseconds, in the 64 bits that a message has for them. -/
def milliseconds (d : Duration) : Nat := d.nanoseconds / 1000000 % UInt64.size

/-- No bit of the milliseconds is lost below the limit. -/
theorem milliseconds_of_lt {d : Duration} (short : d.nanoseconds < UInt64.size * 1000000) :
    d.milliseconds = d.nanoseconds / 1000000 :=
  Nat.mod_eq_of_lt ((Nat.div_lt_iff_lt_mul (by decide)).mpr short)

end Duration
end Rehearsal
