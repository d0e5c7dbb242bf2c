import Rehearsal.Text.Hex

/-!
# Plain YAML scalars

What a scalar without quotes and without a tag stands for: nothing, a truth
value, a number, or its own text. Both directions need this: a reader that asks
for a number, and a writer that has to keep a text from being read as one.
-/

namespace Rehearsal.Yaml

open Text

/-- The spellings of nothing. -/
def isNull (s : List Char) : Bool :=
  ["null", "Null", "NULL", "~"].contains (String.ofList s)

/-- The truth value of a scalar, in one of three spellings each. -/
def bool? (s : List Char) : Option Bool :=
  let s := String.ofList s
  if ["true", "True", "TRUE"].contains s then some true
  else if ["false", "False", "FALSE"].contains s then some false
  else none

/-- The value of a text of digits, at least one, in a base up to sixteen. -/
def digits? (base : Nat) (s : List Char) : Option Nat :=
  if s.isEmpty then none
  else
    s.foldl (fun n c => do
      let d ← hexValue? c
      if d < base then return (← n) * base + d else none) (some 0)

/-- The text after one sign. -/
def withoutSign : List Char → List Char
  | '+' :: rest => rest
  | '-' :: rest => rest
  | s => s

/-- The text after a plus sign. -/
def withoutPlus : List Char → List Char
  | '+' :: rest => rest
  | s => s

/-- Digits after a leading zero, with a sign or without: the text of a code or of a
telephone number, and not a number. -/
def isCode (s : List Char) : Bool :=
  match withoutSign s with
  | '0' :: d :: rest => (d :: rest).all Char.isDigit
  | _ => false

/-- The value of a number in base sixteen, eight or two, which its second character tells. -/
def radix? : List Char → Option Nat
  | '0' :: 'x' :: rest => digits? 16 rest
  | '0' :: 'o' :: rest => digits? 8 rest
  | '0' :: 'b' :: rest => digits? 2 rest
  | _ => none

/-- The value of a whole number that is not negative. -/
def unsigned? (s : List Char) : Option Nat :=
  radix? (withoutPlus s) <|> if isCode s then none else digits? 10 (withoutPlus s)

/-- A decimal number without a sign: its digits as a whole number, how many they are, and
the power of ten that belongs to it. -/
def decimal? (s : List Char) : Option (Nat × Nat × Int) :=
  let whole := s.takeWhile Char.isDigit
  let (fraction, rest) :=
    match s.dropWhile Char.isDigit with
    | '.' :: rest => (rest.takeWhile Char.isDigit, rest.dropWhile Char.isDigit)
    | rest => ([], rest)
  let ofExponent (e : Int) := do
    let n ← digits? 10 (whole ++ fraction)
    return (n, whole.length + fraction.length, e - fraction.length)
  match rest with
  | [] => ofExponent 0
  | e :: rest =>
    if e == 'e' || e == 'E' then
      match rest with
      | '-' :: rest => do ofExponent (-(← digits? 10 rest))
      | rest => do ofExponent (← digits? 10 (withoutPlus rest))
    else none

/-- The first size that floating point rounds to infinity. -/
def infiniteSize : Nat := (1 <<< 1024) - (1 <<< 970)

/-- Tells whether a decimal number with `count` digits is rounded to a finite one. -/
def isFinite (n count : Nat) (exponent : Int) : Bool :=
  if n = 0 then true
  else if 0 ≤ exponent then exponent ≤ 308 && n * Nat.pow 10 exponent.toNat < infiniteSize
  else count ≤ exponent.natAbs || n < infiniteSize * Nat.pow 10 exponent.natAbs

/-- Tells whether a scalar is read as a number that may have a fraction. -/
def isDecimal (s : List Char) : Bool :=
  let size := withoutPlus s
  let signed := s != size && (size.head? == some '+' || size.head? == some '-')
  if signed then false
  else if [".inf", ".Inf", ".INF"].contains (String.ofList size) then true
  else if ["-.inf", "-.Inf", "-.INF", ".nan", ".NaN", ".NAN"].contains (String.ofList s) then true
  else
    match decimal? (withoutSign s) with
    | some (n, count, exponent) => isFinite n count exponent
    | none => false

/-- Tells whether a scalar is read as a whole number in another base than ten, which has up to
128 bits. -/
def isRadix (s : List Char) : Bool :=
  match s with
  | '-' :: rest => (radix? rest).any (· ≤ 1 <<< 127)
  | s => (radix? (withoutPlus s)).any (· < 1 <<< 128)

/-- Tells whether a text without quotes would be read as something else, or looks like a
number. -/
def isAmbiguous (s : List Char) : Bool :=
  s.isEmpty || isNull s || (bool? s).isSome || isRadix s || isCode s || isDecimal s

end Rehearsal.Yaml
