import Rehearsal.Text.Composition

/-!
# Composed text

The one way to write a text in which marks stand in the order of their classes
and each character is put together with the marks behind it where that makes a
character (Normalization Form C). Hangul syllables are put together by
arithmetic. Characters that only stand for others have to be replaced before.
-/

namespace Rehearsal.Text

/-! ### Hangul -/

namespace Hangul

/-- The first syllable. The others follow by leading consonant, vowel and trailing consonant. -/
def firstSyllable : Nat := 0xac00

def leadingCount : Nat := 19

def vowelCount : Nat := 21

/-- The trailing consonants and their absence. -/
def trailingCount : Nat := 28

def firstLeading : Nat := 0x1100

def firstVowel : Nat := 0x1161

/-- The place before the first trailing consonant, which stands for its absence. -/
def beforeTrailing : Nat := 0x11a7

def isSyllable (n : Nat) : Bool :=
  firstSyllable ≤ n && n < firstSyllable + leadingCount * vowelCount * trailingCount

/-- The letters of a syllable. -/
def lettersOf (n : Nat) : List Char :=
  let place := n - firstSyllable
  let leading := firstLeading + place / (vowelCount * trailingCount)
  let vowel := firstVowel + place % (vowelCount * trailingCount) / trailingCount
  let trailing := place % trailingCount
  let start := [Char.ofNat leading, Char.ofNat vowel]
  if trailing = 0 then start else start ++ [Char.ofNat (beforeTrailing + trailing)]

/-- The syllable of a leading consonant and a vowel, or of a syllable and a trailing
consonant. -/
def join? (a b : Nat) : Option Char :=
  if firstLeading ≤ a && a < firstLeading + leadingCount && firstVowel ≤ b &&
      b < firstVowel + vowelCount then
    let place := (a - firstLeading) * vowelCount + (b - firstVowel)
    some (Char.ofNat (firstSyllable + place * trailingCount))
  else if isSyllable a && (a - firstSyllable) % trailingCount = 0 && beforeTrailing < b &&
      b < beforeTrailing + trailingCount then
    some (Char.ofNat (a + (b - beforeTrailing)))
  else none

end Hangul

/-! ### Taking apart -/

/-- The parts of a character, at most `depth` times taken apart. -/
def parts : (depth : Nat) → Char → List Char
  | 0, c => [c]
  | depth + 1, c =>
    if c.toNat < 0xc0 then [c]
    else if Hangul.isSyllable c.toNat then Hangul.lettersOf c.toNat
    else
      match (composites.find? c.toNat).map CodeRow.values with
      | some [a, b] => parts depth (Char.ofNat a) ++ [Char.ofNat b]
      | _ => [c]

/-- Puts a mark before those at the end of a text that have a greater class. The text is
given from its end. -/
def putMark (c : Char) : List Char → List Char
  | [] => [c]
  | d :: rest =>
    if combiningClass c != 0 && combiningClass c < combiningClass d then d :: putMark c rest
    else c :: d :: rest

/-- The text in parts, with its marks in order. No character has more than three marks. -/
def decomposed (s : List Char) : List Char :=
  ((s.flatMap (parts 4)).foldl (fun done c => putMark c done) []).reverse

/-! ### Putting together -/

/-- The character that two make. -/
def join? (a b : Char) : Option Char :=
  match Hangul.join? a.toNat b.toNat with
  | some c => some c
  | none =>
    if b.toNat < 0x300 then none
    else
      (composites.rows.find? fun r => r.values == [a.toNat, b.toNat]).map fun r => Char.ofNat r.first

/-- What has been put together: the text before the last character without a class, from its
end, that character, and the marks behind it that have not become part of it, from their end. -/
structure Composing where
  before : List Char
  base : Option Char
  marks : List Char

namespace Composing

def text (s : Composing) : List Char := s.marks ++ s.base.toList ++ s.before

/-- Adds a character. It joins the last one without a class, unless a mark between them has
the same class or a greater one. -/
def add (s : Composing) (c : Char) : Composing :=
  let isNext := s.marks.head?.all fun m => combiningClass m < combiningClass c
  match s.base.bind fun base => if isNext then join? base c else none with
  | some joined => { s with base := some joined }
  | none =>
    if combiningClass c = 0 then ⟨s.text, some c, []⟩ else { s with marks := c :: s.marks }

end Composing

/-- The composed text. -/
def composed (s : List Char) : List Char :=
  ((decomposed s).foldl Composing.add ⟨[], none, []⟩).text.reverse

end Rehearsal.Text
