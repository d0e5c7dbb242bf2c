import Rehearsal.Yaml.Style

/-!
# Characters of a YAML text

In YAML the place of a character counts: what is further in belongs to what
is above it. So a text is read as a list of characters that know their places.
Every way to end a line is read as one of three, and the two of them that are
rare remain what they are.
-/

namespace Rehearsal.Yaml

/-- Why a text is not read. -/
structure Fault where
  reason : String
  line : Nat
  column : Nat
  deriving DecidableEq

/-- The fault in words, with lines and columns counted from one. -/
def Fault.message (f : Fault) : String :=
  s!"{f.reason} at line {f.line + 1} column {f.column + 1}"

/-- A character and its place. -/
structure Glyph where
  char : Char
  line : Nat
  column : Nat
  /-- How many bytes of the text are before it. -/
  offset : Nat
  deriving DecidableEq

namespace Glyph

def isBreak (g : Glyph) : Bool := Yaml.isBreak g.char

def isGap (g : Glyph) : Bool := Yaml.isGap g.char

/-- A space, a tab or a break. -/
def isSpace (g : Glyph) : Bool := g.isGap || g.isBreak

/-- The characters of anchors, and of the handles of tags. -/
def isWord (g : Glyph) : Bool := g.char.isAlphanum || g.char == '_' || g.char == '-'

end Glyph

/-- The rest of a text. -/
abbrev Glyphs := List Glyph

/-- The text of characters. -/
def chars (gs : Glyphs) : List Char := gs.map Glyph.char

/-- The place of the rest of a text. -/
def faultAt {α : Type} (gs : Glyphs) (reason : String) : Except Fault α :=
  match gs with
  | g :: _ => .error ⟨reason, g.line, g.column⟩
  | [] => .error ⟨reason, 0, 0⟩

/-- The characters that a text may hold: no controls but tabs and breaks. -/
def isAllowed (c : Char) : Bool :=
  let n := c.toNat
  n == 0x09 || n == 0x0a || n == 0x0d || (0x20 ≤ n && n ≤ 0x7e) || n == 0x85 ||
    (0xa0 ≤ n && n != 0xfffe && n != 0xffff)

/-- The characters of a text with their places, from a place on. A carriage return ends a
line alone or with the line feed after it. -/
def placed (line column offset : Nat) : List Char → Glyphs
  | [] => []
  | '\r' :: '\n' :: rest => ⟨'\n', line, column, offset⟩ :: placed (line + 1) 0 (offset + 2) rest
  | c :: rest =>
    let next := offset + c.utf8Size
    if c == '\r' || c.toNat == 0x85 then
      ⟨'\n', line, column, offset⟩ :: placed (line + 1) 0 next rest
    else if isBreak c then ⟨c, line, column, offset⟩ :: placed (line + 1) 0 next rest
    else ⟨c, line, column, offset⟩ :: placed line (column + 1) next rest

/-- A byte order mark where a line begins. There it counts as a column, but is not read. -/
def Glyph.isMark (g : Glyph) : Bool := g.char.toNat == 0xfeff && g.column == 0

/-- The characters of a text. -/
def glyphs (s : List Char) : Except Fault Glyphs :=
  let all := placed 0 0 0 s
  match all.find? fun g => !isAllowed g.char with
  | some g => .error ⟨"control characters are not allowed", g.line, g.column⟩
  | none => .ok all

/-- Tells whether the rest of a text is at its end, or starts with a space. -/
def isApart : Glyphs → Bool
  | [] => true
  | g :: _ => g.isSpace

/-- Tells whether the rest of a text starts with a character. -/
def startsWith (c : Char) : Glyphs → Bool
  | g :: _ => g.char == c
  | [] => false

/-- Three times the same character at the start of a line, and nothing right behind it. -/
def isTriple (c : Char) : Glyphs → Bool
  | a :: b :: d :: rest =>
    a.column == 0 && a.char == c && b.char == c && d.char == c && isApart rest
  | _ => false

/-- The mark that begins a document, or the mark that ends one. -/
def isDocumentMark (gs : Glyphs) : Bool := isTriple '-' gs || isTriple '.' gs

/-- The spaces at the start of the rest of a text, and what is behind them. -/
def spanSpace (gs : Glyphs) : Glyphs × Glyphs := gs.span Glyph.isSpace

/-- What is behind the spaces and tabs of a line. -/
def skipGap (gs : Glyphs) : Glyphs := gs.dropWhile Glyph.isGap

/-- What is left of a text when the line is over. -/
def skipLine (gs : Glyphs) : Glyphs := gs.dropWhile fun g => !g.isBreak

/-- What is behind a comment, if there is one. -/
def skipComment (gs : Glyphs) : Glyphs := if startsWith '#' gs then skipLine gs else gs

/-- Passes over the rest of a line in which nothing but a comment may stand. -/
def endLine (gs : Glyphs) : Except Fault Glyphs :=
  match skipComment (skipGap gs) with
  | [] => .ok []
  | g :: rest =>
    if g.isBreak then .ok rest
    else faultAt (g :: rest) "did not find expected comment or line break"

/-- What a break and the breaks after it mean inside a scalar that is not literal: one break
is a space, and more are one fewer. -/
def folded : List Char → List Char
  | [] => []
  | '\n' :: [] => [' ']
  | '\n' :: more => more
  | first :: more => first :: more

/-- What the spaces between two words of a scalar mean. Spaces around breaks mean nothing. -/
def joint (gap : Glyphs) : List Char :=
  let breaks := gap.filter Glyph.isBreak
  if breaks.isEmpty then chars gap else folded (chars breaks)

end Rehearsal.Yaml
