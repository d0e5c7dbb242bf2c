import Rehearsal.Domain.Direction
import Rehearsal.Domain.Joiner
import Rehearsal.Domain.Mapping
import Rehearsal.Domain.Punycode

/-!
# Names of domains

A name is a list of labels between points. Whatever way it is given in, it is
written in one way, in ASCII: a label with other characters is written as a
label that stands for it. A label that is given in that form already has to stand
for one that could not be written otherwise.
-/

namespace Rehearsal.Domain

open Text

/-- The characters of ASCII that no name has, besides controls. -/
def forbidden : List Char := "%#/:<>?@[\\]^| ".toList

def isAscii (c : Char) : Bool := c.toNat < 0x80

/-- Whether a character can stand in a name, once it is replaced by what it stands for. -/
def isAllowed (c : Char) : Bool :=
  !isAscii c || (0x20 < c.toNat && c.toNat < 0x7f && !forbidden.contains c)

/-- What a label begins with that stands for another one. -/
def signal : List Char := "xn--".toList

/-- The longest label beyond ASCII. -/
def longestLabel : Nat := 1000

/-- The longest label that stands for another one, without what it begins with. -/
def longestCode : Nat := 2000

/-- A label as it is read, and as it is written. -/
structure Label where
  read : List Char
  written : List Char
  deriving DecidableEq

namespace Label

/-- Whether a text can be a label: all of its characters are allowed, the first belongs to no
other, and joiners stand where they may. -/
def isReadable (s : List Char) : Bool :=
  s.all isAllowed && !s.head?.any isMark && joinersHold [] s &&
    (s.all isAscii || s.length ≤ longestLabel)

/-- The label that a code stands for, the text after the signal. -/
def ofCode? (code : List Char) : Option Label := do
  if longestCode < code.length || !code.all isAscii then none
  else
    let s ← Punycode.decode? code
    if isReadable s && isFolded s && !s.all isAscii then some ⟨s, signal ++ code⟩ else none

/-- The label of a text that is in the form that names have. -/
def ofText? (s : List Char) : Option Label :=
  if signal.isPrefixOf s then ofCode? (s.drop signal.length)
  else if !isReadable s then none
  else if s.all isAscii then some ⟨s, s⟩
  else some ⟨s, signal ++ Punycode.encode s⟩

end Label

/-- Holds of labels that can be read in one direction only. -/
def agree (labels : List Label) : Bool :=
  !labels.any (fun l => hasRightward l.read) || labels.all fun l => keepsDirection l.read

/-- The labels of a name. -/
def labels? (s : List Char) : Option (List Label) := do
  let labels ← (splitAt (fun c => c == '.') (← folded? s)).mapM Label.ofText?
  if agree labels then some labels else none

/-- The one way in which a name is written. -/
def written? (s : List Char) : Option (List Char) :=
  (labels? s).map fun labels => joinWith ['.'] (labels.map Label.written)

end Rehearsal.Domain
