import Rehearsal.Domain.Mapping.Alphabets
import Rehearsal.Domain.Mapping.Asian
import Rehearsal.Domain.Mapping.Beyond
import Rehearsal.Domain.Mapping.Excluded
import Rehearsal.Domain.Mapping.Forms
import Rehearsal.Domain.Mapping.Symbols
import Rehearsal.Text.Composed

/-!
# What characters stand for in names of domains

Names are written in one way. Capital letters stand for small ones, forms that
exist for the sake of other standards for what they are forms of, a few
characters for nothing, and some have no place in a name at all.
-/

namespace Rehearsal.Domain

open Text

/-- What stands for something else beyond ASCII. -/
def replacements : CodeTable :=
  (((alphabets.append symbols).append asian).append forms).append beyond

/-- What a character stands for, if it has a place in names. -/
def replaced? (c : Char) : Option (List Char) :=
  if c.toNat < 0x80 then some [c.toLower]
  else if excluded.has c.toNat then none
  else
    match replacements.find? c.toNat with
    | some r => some ((r.image c.toNat).map Char.ofNat)
    | none => some [c]

/-- A text as names have it: each character replaced by what it stands for, and the whole
composed. -/
def folded? (s : List Char) : Option (List Char) :=
  (s.mapM replaced?).map fun pieces => composed pieces.flatten

/-- Holds of a text that is in the form that names have. -/
def isFolded (s : List Char) : Bool :=
  s.all (fun c => replaced? c == some [c]) && composed s == s

end Rehearsal.Domain
