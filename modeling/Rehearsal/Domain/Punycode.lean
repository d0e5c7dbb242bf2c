/-!
# Names beyond ASCII

A label of a domain name in ASCII: the ASCII characters, a hyphen, and the
others as distances in the order of their code points, in digits of base 36 of
which the weights adapt to the distances.
-/

namespace Rehearsal.Domain.Punycode

/-- A digit below 36: letters, then decimal digits. -/
def digit (n : Nat) : Char := Char.ofNat (if n < 26 then 0x61 + n else 0x30 + (n - 26))

/-- The least value that is not a last digit at a position. -/
def threshold (bias position : Nat) : Nat := max 1 (min 26 (position - bias))

/-- The digits of a distance, the first of which stands at `position`, counted in steps of 36. -/
def digits (bias position distance : Nat) : List Char :=
  let t := threshold bias position
  if distance < t then [digit distance]
  else
    digit (t + (distance - t) % (36 - t)) ::
      digits bias (position + 36) ((distance - t) / (36 - t))
termination_by distance
decreasing_by
  have ht : 1 ≤ threshold bias position := Nat.le_max_left _ _
  calc (distance - threshold bias position) / (36 - threshold bias position)
      ≤ distance - threshold bias position := Nat.div_le_self _ _
    _ < distance := by omega

/-- Divides a distance until it is small, and counts 36 for each time. -/
def shrink (position distance : Nat) : Nat :=
  if 455 < distance then shrink (position + 36) (distance / 35)
  else position + 36 * distance / (distance + 38)
termination_by distance
decreasing_by exact Nat.div_lt_self (by omega) (by omega)

/-- The bias after a distance, when `count` characters are written. -/
def adapt (distance count : Nat) (isFirst : Bool) : Nat :=
  let damped := if isFirst then distance / 700 else distance / 2
  shrink 0 (damped + damped / count)

/-- What has been written, and how the next distance is written. -/
structure Progress where
  written : List Char
  distance : Nat
  bias : Nat
  count : Nat

/-- Looks at one character while the code point `point` is being written. -/
def look (basics point : Nat) (p : Progress) (c : Char) : Progress :=
  if c.toNat < point then { p with distance := p.distance + 1 }
  else if c.toNat = point then
    ⟨p.written ++ digits p.bias 36 p.distance, 0,
      adapt p.distance (p.count + 1) (p.count == basics), p.count + 1⟩
  else p

/-- Writes the places of code points, which are in order. All below `next` are written. -/
def places (label : List Char) (basics : Nat) : (next : Nat) → Progress → List Nat → List Char
  | _, p, [] => p.written
  | next, p, point :: rest =>
    let p := { p with distance := p.distance + (point - next) * (p.count + 1) }
    let p := label.foldl (look basics point) p
    places label basics (point + 1) { p with distance := p.distance + 1 } rest

/-- The code points beyond ASCII, in order and once each. -/
def points (label : List Char) : List Nat :=
  ((label.map Char.toNat).filter fun n => 0x80 ≤ n).mergeSort.eraseDups

/-- A label in ASCII, without the mark before it. -/
def encode (label : List Char) : List Char :=
  let basic := label.filter fun c => c.toNat < 0x80
  let before := if basic.isEmpty then [] else basic ++ ['-']
  before ++ places label basic.length 0x80 ⟨[], 0, 72, basic.length⟩ (points label)

/-- The value of a digit below 36. -/
def value? (c : Char) : Option Nat :=
  let n := c.toNat
  if 0x61 ≤ n && n ≤ 0x7a then some (n - 0x61)
  else if 0x30 ≤ n && n ≤ 0x39 then some (n - 0x30 + 26)
  else none

/-- A distance that begins with digits of a text, and the rest of the text. Distances and the
weights of their digits have 32 bits. -/
def distance? (bias position weight sum : Nat) : List Char → Option (Nat × List Char)
  | [] => none
  | c :: rest => do
    let d ← value? c
    let t := threshold bias position
    let sum := sum + d * weight
    if sum >>> 32 != 0 || weight >>> 32 != 0 then none
    else if d < t then some (sum, rest)
    else distance? bias (position + 36) (weight * (36 - t)) sum rest

theorem length_of_distance? {bias position weight sum n : Nat} {s rest : List Char}
    (h : distance? bias position weight sum s = some (n, rest)) : rest.length < s.length := by
  induction s generalizing position weight sum with
  | nil => simp [distance?] at h
  | cons c s ih =>
    cases hv : value? c with
    | none => simp [distance?, hv] at h
    | some d =>
      simp only [distance?, hv, Option.bind_eq_bind, Option.bind_some] at h
      split at h
      · contradiction
      split at h
      · obtain ⟨-, rfl⟩ := by simpa using h
        simp
      · exact Nat.lt_succ_of_lt (ih h)

/-- Puts characters at their places in a label. `point` and `place` are where the one before
stands in the order of all code points at all places. -/
def putAll (label : List Char) (point place bias : Nat) (isFirst : Bool) (s : List Char) :
    Option (List Char) :=
  if s.isEmpty then some label
  else
    match h : distance? bias 36 1 0 s with
    | none => none
    | some (distance, rest) =>
      let count := label.length + 1
      let point := point + (place + distance) / count
      let place := (place + distance) % count
      if point < 0xd800 || (0xdfff < point && point < 0x110000) then
        putAll (label.take place ++ Char.ofNat point :: label.drop place) point (place + 1)
          (adapt distance count isFirst) false rest
      else none
termination_by s.length
decreasing_by exact length_of_distance? h

/-- The label that a label in ASCII stands for, without the mark before it. There is no hyphen
where no ASCII character is before it. -/
def decode? (s : List Char) : Option (List Char) :=
  let digits := (s.reverse.takeWhile (· != '-')).reverse
  if digits.length = s.length then putAll [] 0x80 0 72 true digits
  else
    let basic := s.take (s.length - digits.length - 1)
    if basic.isEmpty then none else putAll basic 0x80 0 72 true digits

end Rehearsal.Domain.Punycode
