/-!
# Binary floating point, 64 bits wide

A finite number is `m · 2 ^ q` with `m < 2 ^ 53` and `-1074 ≤ q`. Counted upward from
zero, the numbers that are not negative form one list without gaps, and a
number is held as its sign and its place in that list. Arithmetic is exact on
`m` and `q`, followed by one rounding to the nearest place, ties to the even one.
-/

namespace Rehearsal

/-- A binary floating-point number: its sign, and how many steps its size is
away from zero. The sizes from `infinitePlace` on stand for infinity. -/
structure Binary64 where
  negative : Bool
  place : Nat
  deriving DecidableEq, Repr

namespace Binary64

/-- The first place beyond the largest finite number. -/
def infinitePlace : Nat := 0x7ff <<< 52

def zero : Binary64 := ⟨false, 0⟩

def isZero (x : Binary64) : Bool := x.place == 0

def isInfinite (x : Binary64) : Bool := infinitePlace ≤ x.place

def neg (x : Binary64) : Binary64 := { x with negative := !x.negative }

/-- Comparison by value: the two zeros are the same. -/
def same (x y : Binary64) : Bool := x == y || (x.isZero && y.isZero)

/-- The place of a number counted from zero, down for those with a sign. It grows with the
value. -/
def position (x : Binary64) : Int := if x.negative then -x.place else x.place

/-- The whole number `m` of a finite size `m · 2 ^ q`. -/
def significand (place : Nat) : Nat :=
  if place < 1 <<< 52 then place else (1 <<< 52) + place % (1 <<< 52)

/-- The exponent `q` of a finite size `m · 2 ^ q`, plus 1074. -/
def scale (place : Nat) : Nat := (place >>> 52) - 1

/-- The quotient rounded to a whole number, a half going to the even neighbour. -/
def roundedQuotient (num den : Nat) : Nat :=
  let whole := num / den
  let twice := 2 * (num % den)
  if twice < den || (twice == den && whole % 2 == 0) then whole else whole + 1

/-- The place nearest to `num / den`. The step between neighbours there is
`2 ^ (scale - 1074)`, and counting steps from the start of the range of that
step gives the place, also when rounding reaches the start of the next range. -/
def placeOfRatio (num den : Nat) : Nat :=
  if num = 0 || den = 0 then 0
  else
    -- 2 ^ (exponent - 1) < num / den < 2 ^ (exponent + 1), shifted by 2000 to stay whole
    let exponent := 2000 + num.log2 - den.log2
    let below := if exponent ≥ 2000 then den <<< (exponent - 2000) ≤ num
      else den ≤ num <<< (2000 - exponent)
    let exponent := if below then exponent else exponent - 1
    let scale := exponent - (2000 - 1074 + 52)
    let steps := if scale ≥ 1074 then roundedQuotient num (den <<< (scale - 1074))
      else roundedQuotient (num <<< (1074 - scale)) den
    Nat.min infinitePlace ((scale <<< 52) + steps)

/-- The number nearest to the quotient of two whole numbers. -/
def ofRatio (num den : Nat) : Binary64 := ⟨false, placeOfRatio num den⟩

def ofNat (n : Nat) : Binary64 := ofRatio n 1

/-- The size of a finite number as a quotient of two whole numbers. -/
def ratio (x : Binary64) : Nat × Nat :=
  let m := significand x.place
  let k := scale x.place
  if k ≥ 1074 then (m <<< (k - 1074), 1) else (m, 1 <<< (1074 - k))

/-- The product of two finite numbers, rounded once. -/
def mul (x y : Binary64) : Binary64 :=
  let (a, b) := x.ratio
  let (c, d) := y.ratio
  ⟨x.negative != y.negative, placeOfRatio (a * c) (b * d)⟩

/-- The quotient of two finite numbers, the second not zero, rounded once. -/
def div (x y : Binary64) : Binary64 :=
  let (a, b) := x.ratio
  let (c, d) := y.ratio
  ⟨x.negative != y.negative, placeOfRatio (a * d) (b * c)⟩

/-- The number nearest to a power of ten. -/
def powerOfTen (n : Nat) : Binary64 := ofNat (Nat.pow 10 n)

end Binary64
end Rehearsal
