import Rehearsal.Pattern.Modes
import Rehearsal.Text.Hex

/-!
# The smallest parts of a pattern

A character that stands for itself, a mark, or what a backslash and the characters behind it
stand for. The cases of letters and the kinds of characters are known for ASCII only, so
there is no meaning to them where characters are matched.
-/

namespace Rehearsal.Pattern

open Text

/-- A part of a pattern that holds no other part. -/
inductive Atom where
  /-- A character. It is a byte when it is written by two hexadecimal digits. -/
  | char (c : Char) (isByte : Bool)
  /-- Any character. -/
  | any
  /-- An end of the text or of a line. -/
  | edge
  /-- A place next to a word, or one that is not. -/
  | boundary
  /-- A digit, a blank or a character of a word, or one that is not. -/
  | kind (negated : Bool)

/-- The number of `count` hexadecimal digits behind the number `n`. -/
def hexDigits? (m : Modes) : (count n : Nat) → List Char → Option (Nat × List Char)
  | 0, n, rest => some (n, rest)
  | _ + 1, _, [] => none
  | count + 1, n, c :: rest => do hexDigits? m count (n * 16 + (← hexValue? c)) (m.next rest)

/-- The character that is written by `count` hexadecimal digits. -/
def hexChar? (m : Modes) (count : Nat) (s : List Char) : Option (Atom × List Char) := do
  let (n, rest) ← hexDigits? m count 0 (m.next s)
  if n < 0xd800 || (0xdfff < n && n < 0x110000) then
    return (.char (Char.ofNat n) (count == 2), rest)
  else none

/-- The characters that a letter behind a backslash stands for. -/
def controls : List (Char × Nat) :=
  [('a', 0x07), ('f', 0x0c), ('t', 0x09), ('n', 0x0a), ('r', 0x0d), ('v', 0x0b)]

/-- What is behind a backslash. Every ASCII character but a letter or a digit stands for
itself there. -/
def escape? (m : Modes) : List Char → Option (Atom × List Char)
  | [] => none
  | c :: rest =>
    match controls.lookup c with
    | some n => some (.char (Char.ofNat n) false, rest)
    | none =>
      if c == 'x' then hexChar? m 2 rest
      else if c == 'u' then hexChar? m 4 rest
      else if c == 'U' then hexChar? m 8 rest
      else if ['d', 's', 'w'].contains c then some (.kind false, rest)
      else if ['D', 'S', 'W'].contains c then some (.kind true, rest)
      else if ['b', 'B', '<', '>'].contains c then some (.boundary, rest)
      else if ['A', 'z'].contains c then some (.edge, rest)
      else if c.toNat < 0x80 && !c.isAlphanum then some (.char c false, rest)
      else none

namespace Atom

/-- Whether an atom has a meaning outside of a class. -/
def isMeant (m : Modes) : Atom → Bool
  | .char c isByte => if m.unicode then !m.caseless else !(isByte && 0x80 ≤ c.toNat)
  | .any => m.unicode
  | .edge => true
  | .boundary => !m.unicode
  | .kind negated => !m.unicode && !negated

/-- Whether a character has a meaning in a class. -/
def canHold (m : Modes) (c : Char) : Bool := if m.unicode then !m.caseless else c.toNat < 0x80

end Atom
end Rehearsal.Pattern
