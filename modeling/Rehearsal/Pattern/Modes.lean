import Rehearsal.Text.Blank

/-!
# The modes of a pattern

A pattern is a regular expression. How its characters are read hangs on modes, which flags
turn on and off from some place on. Patterns match text and only text: what could match a
part of a character has no meaning.
-/

namespace Rehearsal.Pattern

open Text

/-- How the characters of a pattern are read. -/
structure Modes where
  /-- Letters stand for both of their cases. -/
  caseless : Bool
  /-- Characters are matched, not bytes. -/
  unicode : Bool
  /-- Blanks and remarks between the parts do not count. -/
  spaced : Bool

namespace Modes

/-- The modes before any flag. -/
def plain : Modes := ⟨false, true, false⟩

/-- The text without the blanks and remarks at its front. A remark ends with its line. -/
def skip (inRemark : Bool) : List Char → List Char
  | [] => []
  | c :: rest =>
    if inRemark then skip (c != '\n') rest
    else if isBlank c then skip false rest
    else if c == '#' then skip true rest
    else c :: rest

/-- The text from the next character that counts on. -/
def next (m : Modes) (s : List Char) : List Char := if m.spaced then skip false s else s

/-- What is looked at behind a hyphen that may be part of a range. Of a remark, only the mark
is passed over. -/
def ahead (m : Modes) (s : List Char) : Option Char :=
  if m.spaced then
    match s.dropWhile isBlank with
    | '#' :: rest => (rest.dropWhile isBlank).head?
    | rest => rest.head?
  else s.head?

/-- The flags of a pattern, and what begins those that turn modes off. -/
def flags : List Char := ['-', 'i', 'm', 's', 'U', 'u', 'R', 'x']

/-- Whether each flag is known and stands only once, and flags follow the hyphen. -/
def areFlags (s : List Char) : Bool :=
  s.all flags.contains && s.eraseDups.length == s.length && s.getLast? != some '-'

/-- The modes from a list of flags on: those before a hyphen are turned on, the others off. -/
def withFlags (m : Modes) (s : List Char) : Modes :=
  let on := s.takeWhile (· != '-')
  let off := s.drop on.length
  let state (flag : Char) (old : Bool) : Bool := on.contains flag || (old && !off.contains flag)
  ⟨state 'i' m.caseless, state 'u' m.unicode, state 'x' m.spaced⟩

end Modes

/-- The depth of a sequence of parts of these depths. A part on its own is no sequence. -/
def depthOf : List Nat → Nat
  | [] => 0
  | [depth] => depth
  | depths => depths.foldr Nat.max 0 + 1

end Rehearsal.Pattern
