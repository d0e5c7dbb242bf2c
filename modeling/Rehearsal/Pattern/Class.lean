import Rehearsal.Pattern.Atom

/-!
# Classes of characters in a pattern

A class stands in brackets and holds characters, ranges and other classes, with the
operations of sets between them. Only its depth matters.
-/

namespace Rehearsal.Pattern

open Text

/-- A class that has not been closed. -/
structure OpenClass where
  /-- The depth of what stands before the last operation. -/
  left : Option Nat
  /-- The depths of what stands behind it, backwards. -/
  parts : List Nat
  /-- Nothing but hyphens has been read. -/
  isNew : Bool

namespace OpenClass

def start : OpenClass := ⟨none, [], true⟩

/-- The class with one more part. -/
def add (c : OpenClass) (depth : Nat) : OpenClass := ⟨c.left, depth :: c.parts, false⟩

/-- The depth of all that has been read. -/
def depth (c : OpenClass) : Nat :=
  match c.left with
  | none => depthOf c.parts
  | some left => Nat.max left (depthOf c.parts) + 1

/-- The class with an operation behind what has been read. -/
def operate (c : OpenClass) : OpenClass := ⟨some c.depth, [], false⟩

end OpenClass

/-- The classes that have a name. -/
def classNames : List (List Char) :=
  ["alnum", "alpha", "ascii", "blank", "cntrl", "digit", "graph", "lower", "print", "punct", "space",
    "upper", "word", "xdigit"].map String.toList

/-- Whether a class with a name, as it is written behind its bracket, is negated, and what
follows it. -/
def namedClass? : List Char → Option (Bool × List Char)
  | ':' :: rest =>
    let (negated, rest) :=
      match rest with
      | '^' :: rest => (true, rest)
      | rest => (false, rest)
    let name := rest.takeWhile (· != ':')
    match rest.drop name.length with
    | ':' :: ']' :: rest => if classNames.contains name then some (negated, rest) else none
    | _ => none
  | _ => none

/-- What follows the bracket that opens a class, and the mark that negates it. The negation
of bytes that are characters is none of them. -/
def openClass? (m : Modes) (s : List Char) : Option (List Char) :=
  match m.next s with
  | '^' :: rest => if m.unicode then some rest else none
  | rest => some rest

/-- A character of a class, or what is behind a backslash. -/
def classAtom? (m : Modes) : List Char → Option (Atom × List Char)
  | [] => none
  | '\\' :: rest => escape? m rest
  | c :: rest => some (.char c false, rest)

/-- What follows one atom or a range of a class. -/
def afterRange? (m : Modes) (s : List Char) : Option (List Char) := do
  let (first, rest) ← classAtom? m s
  let alone : Option (List Char) :=
    match first with
    | .char c _ => if Atom.canHold m c then some (m.next rest) else none
    | .kind negated => if m.unicode || negated then none else some (m.next rest)
    | _ => none
  match m.next rest with
  | '-' :: rest =>
    if m.ahead rest == some ']' || m.ahead rest == some '-' then alone
    else
      match first, ← classAtom? m (m.next rest) with
      | .char low _, (.char high _, rest) =>
        if low.toNat ≤ high.toNat && Atom.canHold m low && Atom.canHold m high then some rest
        else none
      | _, _ => none
  | _ => alone

/-- What a class and those around it have become by the next part, and what follows. Nothing
is around a class that has become closed. -/
def classStep? (m : Modes) (here : OpenClass) (around : List OpenClass) (s : List Char) :
    Option (OpenClass × List OpenClass × List Char) :=
  let next := m.next s
  match here.isNew, here.parts.isEmpty, next with
  | true, _, '-' :: rest =>
    if Atom.canHold m '-' then some ({ here.add 0 with isNew := true }, around, rest) else none
  | true, true, ']' :: rest =>
    if Atom.canHold m ']' then some (here.add 0, around, rest) else none
  | _, _, '[' :: rest =>
    match namedClass? rest with
    | some (negated, rest) =>
      if if m.unicode then m.caseless else negated then none else some (here.add 0, around, rest)
    | none => do return (.start, here :: around, ← openClass? m rest)
  | _, _, '&' :: '&' :: rest => some (here.operate, around, rest)
  | _, _, '-' :: '-' :: rest => some (here.operate, around, rest)
  | _, _, '~' :: '~' :: rest => some (here.operate, around, rest)
  | _, _, _ => do return (here.add 0, around, ← afterRange? m next)

/-- The depth of a class, and what follows the bracket that closes it. -/
def readClass (m : Modes) : (fuel : Nat) → OpenClass → List OpenClass → List Char →
    Option (Nat × List Char)
  | 0, _, _, _ => none
  | fuel + 1, here, around, s =>
    match m.next s, here.isNew && here.parts.isEmpty, around with
    | ']' :: rest, false, [] => some (here.depth + 1, rest)
    | ']' :: rest, false, outer :: around =>
      readClass m fuel (outer.add (here.depth + 1)) around rest
    | _, _, _ => do
      let (here, around, rest) ← classStep? m here around s
      readClass m fuel here around rest

/-- The depth of a class, from what follows the bracket that opens it. Each step passes a
character. -/
def class? (m : Modes) (s : List Char) : Option (Nat × List Char) := do
  readClass m (s.length + 1) .start [] (← openClass? m s)

end Rehearsal.Pattern
