import Rehearsal.Json.Fault

/-!
# Reading JSON numbers

A number without a fraction or an exponent is whole when it fits into 64 bits,
with or without a sign. Every other number is a fraction: its first digits, as
many as fit into 64 bits, are rounded to floating point and then multiplied or
divided by a power of ten, with one more rounding.
-/

namespace Rehearsal.Json

open Text

/-- Why and where a reader stopped. The place is given by the number of bytes from
there to the end of the text. -/
structure Stop where
  reason : Reason
  left : Nat

/-- A reader takes a value off the front of a text. -/
abbrev Reader (α : Type) := List Char → Except Stop (α × List Char)

/-- Stops before the rest of the text. -/
def stopBefore {α : Type} (reason : Reason) (rest : List Char) : Except Stop α :=
  .error ⟨reason, Utf8.length rest⟩

/-- Stops after the first byte of the rest, if there is one. -/
def stopAfter {α : Type} (reason : Reason) (rest : List Char) : Except Stop α :=
  .error ⟨reason, Utf8.length rest - 1⟩

/-- The digits that still fit: the number they continue `n` to, how many they are,
and the rest of the text. The number stays below `2 ^ 64`. -/
def takeDigits (n count : Nat) : List Char → Nat × Nat × List Char
  | [] => (n, count, [])
  | c :: rest =>
    match digitValue? c with
    | some d => if n * 10 + d < 1 <<< 64 then takeDigits (n * 10 + d) (count + 1) rest
      else (n, count, c :: rest)
    | none => (n, count, c :: rest)

/-- The text after its leading digits. -/
def skipDigits (cs : List Char) : List Char := cs.dropWhile Char.isDigit

/-- Divides by `10 ^ n`, at most `10 ^ 308` at once. -/
def scaleDown (x : Binary64) (n : Nat) : Binary64 :=
  if n ≤ 308 then x.div (Binary64.powerOfTen n)
  else if x.isZero then x
  else scaleDown (x.div (Binary64.powerOfTen 308)) (n - 308)
termination_by n

/-- The number `digits · 10 ^ exponent` by one multiplication or by divisions, or
`none` when it is too large. -/
def scaled? (digits : Nat) (exponent : Int) : Option Binary64 :=
  let x := Binary64.ofNat digits
  if exponent < 0 then some (scaleDown x exponent.natAbs)
  else if exponent ≤ 308 then
    let y := x.mul (Binary64.powerOfTen exponent.natAbs)
    if y.isInfinite then none else some y
  else if x.isZero then some x
  else none

/-- A fraction with its sign. -/
def signed (negative : Bool) (x : Binary64) : Binary64 := if negative then x.neg else x

/-- The end of a fraction: the power of ten is known. -/
def finishFraction (negative : Bool) (digits : Nat) (exponent : Int) : Reader Binary64 :=
  fun rest =>
    match scaled? digits exponent with
    | some x => .ok (signed negative x, rest)
    | none => stopBefore .numberOutOfRange rest

/-- The digits of an exponent. Past `2 ^ 31` its value no longer matters: the number
is zero, or too large. -/
def exponentDigits (negative : Bool) (digits : Nat) (start : Int) (down : Bool) (n : Nat) :
    Reader Binary64
  | [] => finishFraction negative digits (if down then start - n else start + n) []
  | c :: rest =>
    match digitValue? c with
    | none => finishFraction negative digits (if down then start - n else start + n) (c :: rest)
    | some d =>
      if n * 10 + d < 1 <<< 31 then exponentDigits negative digits start down (n * 10 + d) rest
      else if digits != 0 && !down then stopBefore .numberOutOfRange rest
      else .ok (signed negative .zero, skipDigits rest)

/-- An exponent, after its letter: a sign or none, and at least one digit. -/
def exponent (negative : Bool) (digits : Nat) (start : Int) : Reader Binary64 := fun cs =>
  let (down, cs) :=
    match cs with
    | '+' :: rest => (false, rest)
    | '-' :: rest => (true, rest)
    | cs => (false, cs)
  match cs with
  | [] => stopBefore .endInValue []
  | c :: rest =>
    match digitValue? c with
    | some d => exponentDigits negative digits start down d rest
    | none => stopAfter .invalidNumber (c :: rest)

/-- What may follow the digits of a fraction: an exponent, or nothing. -/
def fractionTail (negative : Bool) (digits : Nat) (power : Int) : Reader Binary64
  | 'e' :: rest => exponent negative digits power rest
  | 'E' :: rest => exponent negative digits power rest
  | cs => finishFraction negative digits power cs

/-- The digits after a point, at least one. Those that no longer fit are passed over. -/
def fraction (negative : Bool) (digits : Nat) (power : Int) : Reader Binary64 := fun cs =>
  let (digits, count, rest) := takeDigits digits 0 cs
  match rest with
  | [] => if count = 0 then stopBefore .endInValue []
    else fractionTail negative digits (power - count) []
  | c :: _ =>
    if c.isDigit then fractionTail negative digits (power - count) (skipDigits rest)
    else if count = 0 then stopAfter .invalidNumber rest
    else fractionTail negative digits (power - count) rest

/-- What follows the digits before the point. Digits that no longer fit count as
powers of ten. -/
def wholeTail (negative : Bool) (digits : Nat) : Reader Json := fun cs => do
  let long := cs.takeWhile Char.isDigit
  match skipDigits cs with
  | '.' :: rest =>
    let (x, rest) ← fraction negative digits long.length rest
    return (.float x, rest)
  | 'e' :: rest =>
    let (x, rest) ← exponent negative digits long.length rest
    return (.float x, rest)
  | 'E' :: rest =>
    let (x, rest) ← exponent negative digits long.length rest
    return (.float x, rest)
  | rest =>
    if !long.isEmpty then
      let (x, rest) ← finishFraction negative digits long.length rest
      return (.float x, rest)
    else if !negative then return (.int digits, rest)
    else if 0 < digits && digits ≤ 1 <<< 63 then return (.int (-digits), rest)
    else return (.float (signed true (Binary64.ofNat digits)), rest)

/-- A number, after its sign. Only zero itself starts with the digit zero. -/
def numberAfterSign (negative : Bool) : Reader Json
  | [] => stopBefore .endInValue []
  | '0' :: rest =>
    match rest with
    | c :: _ => if c.isDigit then stopAfter .invalidNumber rest else wholeTail negative 0 rest
    | [] => wholeTail negative 0 []
  | c :: rest =>
    if c.isDigit then
      let (digits, _, rest) := takeDigits 0 0 (c :: rest)
      wholeTail negative digits rest
    else stopAfter .invalidNumber (c :: rest)

/-- A number that starts with this character. -/
def number (first : Char) : Reader Json := fun rest =>
  if first = '-' then numberAfterSign true rest else numberAfterSign false (first :: rest)

/-- Passes over the digits of an exponent, after its letter. -/
def passExponent (cs : List Char) : Except Stop (List Char) :=
  let cs :=
    match cs with
    | '+' :: rest => rest
    | '-' :: rest => rest
    | cs => cs
  match cs with
  | [] => stopBefore .invalidNumber []
  | c :: rest => if c.isDigit then .ok (skipDigits rest) else stopAfter .invalidNumber (c :: rest)

/-- Passes over what follows the digits before the point. -/
def passTail : List Char → Except Stop (List Char)
  | '.' :: rest =>
    match rest with
    | [] => stopBefore .invalidNumber []
    | c :: _ =>
      if c.isDigit then
        match skipDigits rest with
        | 'e' :: rest => passExponent rest
        | 'E' :: rest => passExponent rest
        | rest => .ok rest
      else stopAfter .invalidNumber rest
  | 'e' :: rest => passExponent rest
  | 'E' :: rest => passExponent rest
  | rest => .ok rest

/-- Passes over a number, after its sign, however large it is. -/
def passNumber : List Char → Except Stop (List Char)
  | [] => stopBefore .invalidNumber []
  | '0' :: rest =>
    match rest with
    | c :: _ => if c.isDigit then stopAfter .invalidNumber rest else passTail rest
    | [] => passTail []
  | c :: rest =>
    if c.isDigit then passTail (skipDigits rest) else stopAfter .invalidNumber (c :: rest)

end Rehearsal.Json
