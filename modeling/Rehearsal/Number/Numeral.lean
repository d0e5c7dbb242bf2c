import Rehearsal.Number.Binary64
import Rehearsal.Text.Hex

/-!
# Decimal numerals

Digits with or without a point, and with or without an exponent, are read as the nearest
number of floating point.
-/

namespace Rehearsal

open Text

/-- A decimal numeral without its sign: `digits · 10 ^ exponent`. -/
structure Numeral where
  digits : Nat
  exponent : Int

namespace Numeral

/-- The number of a text of digits. -/
def value? (s : List Char) : Option Nat :=
  if s.isEmpty then none
  else do return (← s.mapM digitValue?).foldl (fun n d => n * 10 + d) 0

/-- Whether a text begins with a plus or a minus sign, and the rest of it. -/
def splitSign : List Char → Option Char × List Char
  | '+' :: rest => (some '+', rest)
  | '-' :: rest => (some '-', rest)
  | rest => (none, rest)

/-- The number of the digits of an exponent. From 65536 on it is large enough, and further
digits do not count. -/
def exponentValue (s : List Char) : Nat :=
  (s.filterMap digitValue?).foldl (fun n d => if n < 65536 then n * 10 + d else n) 0

/-- What follows the digits of a numeral: nothing, or an exponent of one digit or more. -/
def exponent? : List Char → Option Int
  | [] => some 0
  | e :: rest =>
    let (sign, digits) := splitSign rest
    if (e == 'e' || e == 'E') && !digits.isEmpty && digits.all Char.isDigit then
      let n : Int := exponentValue digits
      some (if sign == some '-' then -n else n)
    else none

/-- The numeral of a text. There is a digit before the point or behind it. -/
def ofText? (s : List Char) : Option Numeral := do
  let whole := s.takeWhile Char.isDigit
  let (fraction, rest) :=
    match s.drop whole.length with
    | '.' :: rest => rest.span Char.isDigit
    | rest => ([], rest)
  let digits ← value? (whole ++ fraction)
  return ⟨digits, (← exponent? rest) - fraction.length⟩

/-- The number nearest to a numeral. What lies far above or below the numbers of floating
point is not computed: it is infinite, or zero. -/
def nearest (x : Numeral) : Binary64 :=
  let size := x.exponent + (toString x.digits).length
  if x.digits = 0 || size < -330 then .zero
  else if 310 < size then ⟨false, Binary64.infinitePlace⟩
  else
    .ofRatio (x.digits * Nat.pow 10 x.exponent.toNat) (Nat.pow 10 (-x.exponent).toNat)

end Numeral
end Rehearsal
