import Rehearsal.Number.Binary64

/-!
# The shortest decimal that reads back

Every finite number has an interval of reals that round to it. The decimal
written for it has the fewest digits among the decimals of that interval, and
is the nearest to the number among those. A grid of decimals that meets the
interval does so next to the number, so two candidates for each count of
digits decide.
-/

namespace Rehearsal.Binary64

/-- A positive decimal number: `digits · 10 ^ exponent`. -/
structure Decimal where
  digits : Nat
  exponent : Int
  deriving DecidableEq, Repr

/-- The bounds between which every real rounds to a number, and the number, all
three over the common denominator `den`. The bounds themselves belong to the
interval when `closed` holds. -/
structure Interval where
  low : Nat
  value : Nat
  high : Nat
  den : Nat
  closed : Bool

/-- The interval of the finite number at a place. The step below a power of two
is half the step above it, except at the smallest step. -/
def interval (place : Nat) : Interval :=
  let m := significand place
  let k := scale place
  let narrow := m = 1 <<< 52 && 0 < k
  let up := if k ≥ 1074 then 1 <<< (k - 1074) else 1
  let down := if k ≥ 1074 then 1 else 1 <<< (1074 - k)
  { low := (4 * m - (if narrow then 1 else 2)) * up
    value := 4 * m * up
    high := (4 * m + 2) * up
    den := 4 * down
    closed := m % 2 == 0 }

/-- Tells whether `num / den` lies in the interval. -/
def Interval.contains (i : Interval) (num den : Nat) : Bool :=
  let a := num * i.den
  let low := i.low * den
  let high := i.high * den
  if i.closed then low ≤ a && a ≤ high else low < a && a < high

/-- The nearest of the two decimals next to the number on the grid of multiples of
`10 ^ exponent` that lies in the interval. A tie goes to the even count. -/
def Interval.onGrid? (i : Interval) (exponent : Int) : Option Nat :=
  let up := Nat.pow 10 exponent.toNat
  let down := Nat.pow 10 (-exponent).toNat
  -- the number is value * down / (den * up) steps of the grid away from zero
  let num := i.value * down
  let den := i.den * up
  let floor := num / den
  let rest := num % den
  let lower := i.contains (floor * up) down
  let upper := i.contains ((floor + 1) * up) down
  match lower, upper with
  | true, true =>
    if 2 * rest < den || (2 * rest == den && floor % 2 == 0) then some floor else some (floor + 1)
  | true, false => some floor
  | false, true => some (floor + 1)
  | false, false => none

/-- The largest `p` with `10 ^ p ≤ num / den`, found by going down from `start`. -/
def magnitudeFrom (num den : Nat) : Nat → Int → Int
  | 0, p => p
  | fuel + 1, p =>
    if den * Nat.pow 10 p.toNat ≤ num * Nat.pow 10 (-p).toNat then p
    else magnitudeFrom num den fuel (p - 1)

/-- The first grid that meets the interval, from coarse to fine. Seventeen digits
always suffice. -/
def Interval.firstGrid (i : Interval) (magnitude : Int) : Nat → Nat → Decimal
  | 0, _ => ⟨0, 0⟩
  | fuel + 1, count =>
    let exponent := magnitude - count
    match i.onGrid? exponent with
    | some digits => ⟨digits, exponent⟩
    | none => i.firstGrid magnitude fuel (count + 1)

/-- Trailing zeros moved from the digits to the exponent. -/
def Decimal.trimmed : Nat → Decimal → Decimal
  | 0, d => d
  | fuel + 1, d =>
    if d.digits % 10 == 0 && d.digits != 0 then
      Decimal.trimmed fuel ⟨d.digits / 10, d.exponent + 1⟩
    else d

/-- The shortest decimal for the finite number at a place above zero. -/
def shortest (place : Nat) : Decimal :=
  let i := interval place
  let magnitude := magnitudeFrom i.value i.den 640 309
  (i.firstGrid magnitude 18 0).trimmed 20

/-- How a number is written: below `10 ^ positionalBelow` and from
`10 ^ (-positionalFrom)` on with a point in its place, otherwise with an
exponent, whose sign `+` is written when `plusSign` holds. -/
structure Layout where
  positionalFrom : Nat
  positionalBelow : Nat
  plusSign : Bool

/-- Digits with a point before the last `places` of them. -/
def withPoint (digits : List Char) (places : Nat) : List Char :=
  let padded := List.replicate (places + 1 - digits.length) '0' ++ digits
  padded.take (padded.length - places) ++ ['.'] ++ padded.drop (padded.length - places)

/-- The text of a decimal in a layout. At least one digit follows a point that is
written in its place, and none follows the first digit of a lone digit with an
exponent. -/
def Decimal.text (layout : Layout) (d : Decimal) : List Char :=
  let digits := (toString d.digits).toList
  -- the number is 0.d₁d₂… times 10 ^ point
  let point := d.exponent + digits.length
  if -(layout.positionalFrom : Int) < point && point ≤ layout.positionalBelow then
    if d.exponent ≥ 0 then digits ++ List.replicate d.exponent.toNat '0' ++ ['.', '0']
    else withPoint digits (-d.exponent).toNat
  else
    let sign := if point - 1 < 0 then ['-'] else if layout.plusSign then ['+'] else []
    let fraction := if digits.length ≤ 1 then [] else '.' :: digits.drop 1
    digits.take 1 ++ fraction ++ ['e'] ++ sign ++ (toString (point - 1).natAbs).toList

/-- The text of a decimal without an exponent, and with a point only if digits follow it. -/
def Decimal.plainText (d : Decimal) : List Char :=
  let digits := (toString d.digits).toList
  if d.exponent ≥ 0 then digits ++ List.replicate d.exponent.toNat '0'
  else withPoint digits (-d.exponent).toNat

/-- The text of a number without an exponent. -/
def plainText (x : Binary64) : List Char :=
  let size :=
    if x.isInfinite then "inf".toList
    else if x.isZero then ['0']
    else (shortest x.place).plainText
  if x.negative then '-' :: size else size

/-- The text of a finite number in a layout. -/
def text (layout : Layout) (x : Binary64) : List Char :=
  let sign := if x.negative then ['-'] else []
  if x.isZero then sign ++ ['0', '.', '0'] else sign ++ (shortest x.place).text layout

end Rehearsal.Binary64
