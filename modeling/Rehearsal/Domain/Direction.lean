import Rehearsal.Text.Mark

/-!
# The direction of labels

A name in which something is written from right to left must not be read in two
ways. So each of its labels begins with a letter, keeps to the direction of that
letter, and ends with a letter or a number. The tables speak of the characters
that names can have.
-/

namespace Rehearsal.Domain

open Text

/-- In which direction a character is written. -/
inductive Direction where
  | left
  | right
  /-- A digit within scripts that are written from right to left. -/
  | arabicNumber
  /-- A digit of the common kind. -/
  | europeanNumber
  /-- A mark, which follows its character. -/
  | mark
  | neutral
  deriving DecidableEq

/-- Letters of scripts that are written from right to left. -/
def rightward : CodeTable :=
  .ofText "5be, 5c0, 5c3, 5c6, 5d0-5f4, 608, 60b, 60d, 61b-64a, 66d-66f, 671-6d5, 6e5-6e6, 6ee-6ef,
    6fa-710, 712-72f, 74d-7a5, 7b1-7ea, 7f4-7f5, 7fa, 7fe-815, 81a, 824, 828, 830-858, 85e-88f,
    8a0-8c9, fbb2-fbc2, fe73, 10800-1091b, 10920-10a00, 10a10-10a35, 10a40-10ae4, 10aeb-10b35,
    10b40-10d23, 10d40-10d4f, 10d6f-10d8f, 10e80-10ea9, 10ead-10ec7, 10f00-10f45, 10f51-10f81,
    10f86-10ff6, 1e800-1e8cf, 1e922-1e943, 1e94b-1ed3d"

/-- Digits that are written within such scripts. -/
def arabicNumbers : CodeTable :=
  .ofText "660-669, 66b-66c, 10d30-10d39, 10e60-10e7e"

/-- Digits of the common kind. -/
def europeanNumbers : CodeTable :=
  .ofText "6f0-6f9, 102e1-102fb"

/-- Characters without a direction of their own. -/
def neutrals : CodeTable :=
  .ofText "a1-d7, f7, 2b9-2ba, 2c2-2cf, 2d2-2ed, 2ef-2ff, 375, 3f6, 58a-58f, 606-607, 609-60a, 60c,
    60e-60f, 66a, 6de, 6e9, 7f6-7f9, 9f2-9f3, 9fb, af1, bf3-bfa, c78-c7e, e3f, f3a-f3d, 1390-1399,
    1400, 169b-169c, 17db, 17f0-180a, 1940-1945, 19de-19ff, 200c-214d, 218a-2335, 237b-2394,
    2396-26ab, 26ad-27ff, 2900-2bff, 2ce5-2cea, 2cf9-2cff, 2e00-3004, 3008-3020, 3030, 3037,
    303d-303f, 30a0, 30fb, 31c0-31e5, 4dc0-4dff, a490-a4c6, a60d-a60f, a673-a67f, a700-a721, a788,
    a828-a82b, a838-a839, a874-a877, ab6a-ab6b, fbc3-fe46, 10101, 10140-1018c, 10190-101a0, 1091f,
    10b39-10b3f, 10d6e, 10ed0-10ed8, 11052-11065, 11660-1166c, 11fd5-11ff1, 16fe2, 1cc00-1cef0,
    1d1e9-1d245, 1d300-1d356, 1e2ff, 1eef0-1f12f, 1f16d-1f16f, 1f1ad, 1f260-1fbfa"

/-- Marks that take no room, but count as letters. -/
def letterMarks : List Nat := [0xcbf, 0xcc6, 0x11a07, 0x11a08, 0x11c3f]

def directionOfAscii (c : Char) : Direction :=
  if c.isAlpha then .left else if c.isDigit then .europeanNumber else .neutral

def direction (c : Char) : Direction :=
  let n := c.toNat
  if n < 0x80 then directionOfAscii c
  else if isNonspacing c then if letterMarks.contains n then .left else .mark
  else if rightward.has n then .right
  else if arabicNumbers.has n then .arabicNumber
  else if europeanNumbers.has n then .europeanNumber
  else if neutrals.has n then .neutral
  else .left

/-- Whether something in a text is written from right to left. -/
def hasRightward (s : List Char) : Bool :=
  s.any fun c => 0x590 ≤ c.toNat && (direction c == .right || direction c == .arabicNumber)

/-- What may follow a letter of a direction in a label, and whether a label may end with it. -/
def follows (first d : Direction) : Bool :=
  match d with
  | .mark => true
  | .neutral => true
  | .europeanNumber => true
  | .left => first == .left
  | .right => first == .right
  | .arabicNumber => first == .right

/-- Holds of a label that keeps to one direction. It does not end with a neutral character
other than its marks, and does not mix the two kinds of digits. -/
def keepsDirection (label : List Char) : Bool :=
  match label.map direction with
  | [] => true
  | first :: rest =>
    (first == .left || first == .right) && rest.all (follows first) &&
      (rest.reverse.dropWhile (· == .mark)).head? != some .neutral &&
      !(first == .right && rest.contains .arabicNumber && rest.contains .europeanNumber)

end Rehearsal.Domain
