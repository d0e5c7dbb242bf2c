import Rehearsal.Pattern.Class
import Rehearsal.Text.Letter

/-!
# Reading patterns

A pattern is made of branches, and a branch of atoms, classes and groups, each of which may
be repeated. Reading keeps the groups that are open, and of what has been read the depth: a
pattern may not be deeper than `maxDepth`.
-/

namespace Rehearsal.Pattern

open Text

/-- A part of a branch. Flags cannot be repeated. -/
inductive Element where
  | flags
  | part (depth : Nat)

def Element.depth : Element → Nat
  | .flags => 0
  | .part depth => depth

/-- A group that has not been closed, or the whole pattern. -/
structure OpenGroup where
  modes : Modes
  /-- The depths of the branches before the last one. -/
  branches : List Nat
  /-- The parts of the last branch, backwards. -/
  elements : List Element

namespace OpenGroup

def start (m : Modes) : OpenGroup := ⟨m, [], []⟩

/-- The group with one more part. -/
def add (g : OpenGroup) (element : Element) : OpenGroup :=
  { g with elements := element :: g.elements }

def branchDepth (g : OpenGroup) : Nat := depthOf (g.elements.map Element.depth)

def depth (g : OpenGroup) : Nat := depthOf (g.branchDepth :: g.branches)

/-- The group with a new branch. -/
def branch (g : OpenGroup) : OpenGroup := ⟨g.modes, g.branchDepth :: g.branches, []⟩

/-- The group with its last part repeated, if there is one that can be. -/
def repeat? (g : OpenGroup) : Option OpenGroup :=
  match g.elements with
  | .part depth :: rest => some { g with elements := .part (depth + 1) :: rest }
  | _ => none

end OpenGroup

/-- What has been read of a pattern. -/
structure Reading where
  here : OpenGroup
  /-- The groups around it, the innermost first. -/
  around : List OpenGroup
  /-- The names of groups. -/
  names : List (List Char)

/-- Whether a text can name a group. -/
def isGroupName : List Char → Bool
  | [] => false
  | c :: rest =>
    (c == '_' || isLetter c) &&
      rest.all fun c => ['_', '.', '[', ']'].contains c || isLetterOrNumber c

namespace Reading

/-- A group opens. -/
def enter (r : Reading) (m : Modes) : Reading :=
  { r with here := .start m, around := r.here :: r.around }

/-- The last group closes. The modes are again what they were before it. -/
def leave? (r : Reading) : Option Reading :=
  match r.around with
  | [] => none
  | outer :: around =>
    some { r with here := outer.add (.part (r.here.depth + 1)), around := around }

/-- A group with a name opens. -/
def enterNamed? (r : Reading) (s : List Char) : Option (Reading × List Char) :=
  let name := s.takeWhile (· != '>')
  match s.drop name.length with
  | [] => none
  | _ :: rest =>
    if isGroupName name && !r.names.contains name then
      some (({ r with names := name :: r.names }).enter r.here.modes, rest)
    else none

/-- Flags, for a group that opens or for what follows. -/
def enterFlags? (r : Reading) (s : List Char) : Option (Reading × List Char) :=
  let flags := s.takeWhile fun c => c != ':' && c != ')'
  let modes := r.here.modes.withFlags flags
  match s.drop flags.length with
  | [] => none
  | c :: rest =>
    if !Modes.areFlags flags then none
    else if c == ':' then some (r.enter modes, rest)
    else if flags.isEmpty then none
    else some ({ r with here := { r.here.add .flags with modes := modes } }, rest)

/-- What an opening parenthesis begins. -/
def enter? (r : Reading) (s : List Char) : Option (Reading × List Char) :=
  match r.here.modes.next s with
  | '?' :: 'P' :: '<' :: rest => r.enterNamed? rest
  | '?' :: '<' :: rest => r.enterNamed? rest
  | '?' :: rest => r.enterFlags? rest
  | rest => some (r.enter r.here.modes, rest)

/-- An atom, if it has a meaning. -/
def add? (r : Reading) (atom : Atom) : Option Reading :=
  if atom.isMeant r.here.modes then some { r with here := r.here.add (.part 0) } else none

/-- Reads the part that begins with `c`. A brace would begin a count, which cannot be closed:
no pattern holds the other brace. -/
def step? (r : Reading) (c : Char) (rest : List Char) : Option (Reading × List Char) :=
  let modes := r.here.modes
  match c with
  | '(' => r.enter? rest
  | ')' => do return (← r.leave?, rest)
  | '|' => some ({ r with here := r.here.branch }, rest)
  | '[' => do
    let (depth, rest) ← class? modes rest
    return ({ r with here := r.here.add (.part depth) }, rest)
  | '\x7b' => none
  | '\\' => do
    let (atom, rest) ← escape? modes rest
    return (← r.add? atom, rest)
  | '.' => do return (← r.add? .any, rest)
  | '^' => do return (← r.add? .edge, rest)
  | '$' => do return (← r.add? .edge, rest)
  | c =>
    if ['?', '*', '+'].contains c then do
      let here ← r.here.repeat?
      return ({ r with here := here }, if rest.head? == some '?' then rest.drop 1 else rest)
    else do return (← r.add? (.char c false), rest)

/-- Reads on to the end of a text. -/
def read : (fuel : Nat) → Reading → List Char → Option Reading
  | 0, _, _ => none
  | fuel + 1, r, s =>
    match r.here.modes.next s with
    | [] => some r
    | c :: rest => do
      let (r, rest) ← r.step? c rest
      read fuel r rest

end Reading

/-- How deep a pattern may be. -/
def maxDepth : Nat := 250

/-- Whether a text is a pattern with a meaning: all groups are closed and it is not too deep.
Each step of reading passes a character. -/
def isPattern (s : List Char) : Bool :=
  match Reading.read (s.length + 1) ⟨.start .plain, [], []⟩ s with
  | none => false
  | some r => r.around.isEmpty && r.here.depth ≤ maxDepth

end Rehearsal.Pattern
