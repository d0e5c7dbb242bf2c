import Rehearsal.Yaml.Glyph

/-!
# Reading YAML scalars

The texts of scalars in their four styles. Each reader starts behind the mark of
its style and gives the text and what is behind the scalar. Each step of a
reader takes a character at least, so the length of the text is enough fuel.
-/

namespace Rehearsal.Yaml

open Text

/-! ### Plain -/

/-- The characters that end a plain scalar inside brackets. -/
def isFlowMark (g : Glyph) : Bool :=
  [',', '[', ']', '\x7b', '\x7d'].contains g.char

/-- The characters of a plain scalar up to a space or its end. A colon ends it before a
space, and inside brackets a colon may not stand before a bracket, a comma or a question
mark. -/
def plainWord (flow : Bool) : Glyphs → Except Fault (List Char × Glyphs)
  | [] => .ok ([], [])
  | g :: rest =>
    if g.isSpace then .ok ([], g :: rest)
    else if flow && g.char == ':' && rest.head?.any (fun h => isFlowMark h || h.char == '?') then
      faultAt (g :: rest) "found unexpected ':'"
    else if (g.char == ':' && isApart rest) || (flow && isFlowMark g) then .ok ([], g :: rest)
    else do
      let (word, rest) ← plainWord flow rest
      return (g.char :: word, rest)

/-- A plain scalar, whether it ends behind a break, and what is behind it. Outside of
brackets it goes on in lines that start at column `indent` or further in. -/
def plain (flow : Bool) (indent : Nat) : Nat → Glyphs → Except Fault (List Char × Bool × Glyphs)
  | 0, gs => .ok ([], false, gs)
  | fuel + 1, gs => do
    let (word, rest) ← plainWord flow gs
    let (gap, rest) := spanSpace rest
    let broken := gap.any Glyph.isBreak
    let tab := (gap.dropWhile Glyph.isGap).find? fun g => g.char == '\t' && g.column < indent
    if let some g := tab then
      throw ⟨"found a tab character that violates indentation", g.line, g.column⟩
    if gap.isEmpty then return (word, false, rest)
    match rest with
    | [] => return (word, broken, [])
    | g :: _ =>
      if (!flow && g.column < indent) || isDocumentMark rest || g.char == '#' then
        return (word, broken, rest)
      else
        let (more, ending, rest) ← plain flow indent fuel rest
        if more.isEmpty then return (word, broken, rest)
        else return (word ++ joint gap ++ more, ending, rest)

/-! ### Quoted -/

/-- The value of hexadecimal digits, as many as given. -/
def hexDigits (n : Nat) : (count : Nat) → Glyphs → Except Fault (Nat × Glyphs)
  | 0, gs => .ok (n, gs)
  | count + 1, g :: rest =>
    match hexValue? g.char with
    | some d => hexDigits (n * 16 + d) count rest
    | none => faultAt (g :: rest) "did not find expected hexadecimal number"
  | _ + 1, [] => faultAt [] "did not find expected hexadecimal number"

/-- A character that is written by its number. -/
def numbered (count : Nat) (gs : Glyphs) : Except Fault (Char × Glyphs) := do
  let (n, rest) ← hexDigits 0 count gs
  if (0xd800 ≤ n && n ≤ 0xdfff) || 0x10ffff < n then
    faultAt gs "found invalid Unicode character escape code"
  else return (Char.ofNat n, rest)

/-- The escapes of one letter. -/
def escapes : List (Char × Char) :=
  [('0', '\x00'), ('a', '\x07'), ('b', '\x08'), ('t', '\t'), ('\t', '\t'), ('n', '\n'),
    ('v', '\x0b'), ('f', '\x0c'), ('r', '\r'), ('e', '\x1b'), (' ', ' '), ('"', '"'),
    ('/', '/'), ('\\', '\\'), ('N', '\u0085'), ('_', '\u00a0'), ('L', '\u2028'),
    ('P', '\u2029')]

/-- A character that is written after a backslash. -/
def escape : Glyphs → Except Fault (Char × Glyphs)
  | [] => faultAt [] "found unknown escape character"
  | g :: rest =>
    match g.char with
    | 'x' => numbered 2 rest
    | 'u' => numbered 4 rest
    | 'U' => numbered 8 rest
    | c =>
      match escapes.lookup c with
      | some escaped => .ok (escaped, rest)
      | none => faultAt (g :: rest) "found unknown escape character"

/-- The characters between quotes up to a space, the closing quote or a break that is
escaped, which the second result tells. -/
def quotedWord (quote : Char) : Nat → Glyphs → Except Fault (List Char × Bool × Glyphs)
  | 0, gs => .ok ([], false, gs)
  | _ + 1, [] => .ok ([], false, [])
  | fuel + 1, g :: rest =>
    if g.isSpace then .ok ([], false, g :: rest)
    else if quote == '\'' && g.char == '\'' && startsWith '\'' rest then do
      let (word, joined, rest) ← quotedWord quote fuel (rest.drop 1)
      return ('\'' :: word, joined, rest)
    else if g.char == quote then .ok ([], false, g :: rest)
    else if quote == '"' && g.char == '\\' then
      if rest.head?.any Glyph.isBreak then .ok ([], true, rest.drop 1)
      else do
        let (c, rest) ← escape rest
        let (word, joined, rest) ← quotedWord quote fuel rest
        return (c :: word, joined, rest)
    else do
      let (word, joined, rest) ← quotedWord quote fuel rest
      return (g.char :: word, joined, rest)

/-- A quoted scalar, after its opening quote. -/
def quoted (quote : Char) : Nat → Glyphs → Except Fault (List Char × Glyphs)
  | 0, gs => faultAt gs "found unexpected end of stream"
  | fuel + 1, gs =>
    if isDocumentMark gs then faultAt gs "found unexpected document indicator"
    else do
      let (word, joined, rest) ← quotedWord quote (fuel + 1) gs
      match rest with
      | [] => faultAt gs "found unexpected end of stream"
      | g :: after =>
        if g.char == quote then return (word, after)
        else
          let (gap, rest) := spanSpace rest
          let between := if joined then chars (gap.filter Glyph.isBreak) else joint gap
          let (more, rest) ← quoted quote fuel rest
          return (word ++ between ++ more, rest)

/-! ### Literal and folded -/

/-- What becomes of the breaks at the end of a scalar with lines of its own. -/
inductive Chomping where
  | clip
  | strip
  | keep

/-- The chomping that a mark asks for. -/
def chomping? (gs : Glyphs) : Option Chomping :=
  if startsWith '+' gs then some .keep else if startsWith '-' gs then some .strip else none

/-- The digit that says how far in the lines are. -/
def depth? : Glyphs → Except Fault (Option Nat)
  | [] => .ok none
  | g :: rest =>
    match digitValue? g.char with
    | some 0 => faultAt (g :: rest) "found an indentation indicator equal to 0"
    | d => .ok d

/-- The marks after a bar or an angle bracket, in either order. -/
def header (gs : Glyphs) : Except Fault (Chomping × Option Nat × Glyphs) :=
  match chomping? gs with
  | some chomping => do
    let depth ← depth? (gs.drop 1)
    return (chomping, depth, gs.drop (if depth.isSome then 2 else 1))
  | none => do
    match ← depth? gs with
    | none => return (.clip, none, gs)
    | some depth =>
      match chomping? (gs.drop 1) with
      | some chomping => return (chomping, some depth, gs.drop 2)
      | none => return (.clip, some depth, gs.drop 1)

/-- The empty lines before the next line of a scalar: their breaks, the furthest column at
which one of them or the next line begins, and what is behind the spaces before that line.
Spaces from column `limit` on belong to the line. -/
def emptyLines (limit : Option Nat) (furthest : Nat) :
    Glyphs → Except Fault (List Char × Nat × Glyphs)
  | [] => .ok ([], furthest, [])
  | g :: rest =>
    let outside := limit.all (g.column < ·)
    if outside && g.char == ' ' then emptyLines limit furthest rest
    else if outside && g.char == '\t' then
      faultAt (g :: rest) "found a tab character where an indentation space is expected"
    else if g.isBreak then do
      let (breaks, furthest, rest) ← emptyLines limit (max furthest g.column) rest
      return (g.char :: breaks, furthest, rest)
    else .ok ([], max furthest g.column, g :: rest)

/-- The lines of a scalar at a column: their text, the break after the last of them, the
breaks of the empty lines after it, and what is behind these. `before` is the break before
the next line and `empty` those of the empty lines there. A folded break between two lines
that start without a space is a space. -/
def blockLines (literal : Bool) (column : Nat) :
    Nat → (spaced : Bool) → (before empty : List Char) → Glyphs →
      Except Fault (List Char × List Char × List Char × Glyphs)
  | 0, _, before, empty, gs => .ok ([], before, empty, gs)
  | _ + 1, _, before, empty, [] => .ok ([], before, empty, [])
  | fuel + 1, spaced, before, empty, g :: rest =>
    if g.column != column then .ok ([], before, empty, g :: rest)
    else do
      let folds := !literal && before == ['\n'] && !spaced && !g.isGap
      let start := if folds then if empty.isEmpty then [' '] else [] else before
      let line := (g :: rest).takeWhile fun g => !g.isBreak
      let ending := skipLine (g :: rest)
      let (breaks, _, next) ← emptyLines (some column) 0 (ending.drop 1)
      let (more, last, trailing, rest) ←
        blockLines literal column fuel g.isGap (chars (ending.take 1)) breaks next
      return (start ++ empty ++ chars line ++ more, last, trailing, rest)

/-- A scalar with lines of its own, after its bar or angle bracket. What it belongs to
starts at column `parent`, if it belongs to anything. Its own column is given by a digit
or by its first line. -/
def block (literal : Bool) (parent : Option Nat) (gs : Glyphs) :
    Except Fault (List Char × Glyphs) := do
  let (chomping, depth, rest) ← header gs
  let rest ← endLine rest
  let given := depth.map fun d => parent.getD 0 + d
  let (empty, furthest, rest) ← emptyLines given 0 rest
  let column := given.getD (max furthest (max 1 (parent.elim 0 (· + 1))))
  let (text, last, trailing, rest) ←
    blockLines literal column (rest.length + 1) false [] empty rest
  match chomping with
  | .strip => return (text, rest)
  | .clip => return (text ++ last, rest)
  | .keep => return (text ++ last ++ trailing, rest)

end Rehearsal.Yaml
