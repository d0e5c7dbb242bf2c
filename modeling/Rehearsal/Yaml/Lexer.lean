import Rehearsal.Yaml.Scalar
import Rehearsal.Yaml.Token

/-!
# Taking a YAML text apart

From characters to tokens. Outside of brackets, a token further in than the
innermost open block opens a block, and a token further out closes the blocks
that it has left. That a scalar was a key is only known at the colon behind it,
so the place of a token that may be a key is remembered, and the token for the
key is put there later.
-/

namespace Rehearsal.Yaml

/-- A token that may turn out to be a key. -/
structure KeyPlace where
  /-- How many tokens came before it. -/
  count : Nat
  glyph : Glyph
  /-- It stands where only a key may stand. -/
  required : Bool

/-- What is known between two tokens. -/
structure Lexer where
  /-- The tokens so far, the last one first. -/
  tokens : List Token
  count : Nat
  /-- The columns of the open blocks, the innermost first. -/
  columns : List Nat
  /-- The token that may be a key at the present depth of brackets. -/
  candidate : Option KeyPlace
  /-- Those at the depths outside, the innermost first. -/
  outer : List (Option KeyPlace)
  /-- A key without a mark of its own may begin. -/
  keyAllowed : Bool

namespace Lexer

def start : Lexer := ⟨[], 0, [], none, [], true⟩

/-- Tells whether brackets are open. -/
def inFlow (l : Lexer) : Bool := !l.outer.isEmpty

def add (l : Lexer) (t : Token) : Lexer := { l with tokens := t :: l.tokens, count := l.count + 1 }

/-- Puts a token after the first `count` tokens. -/
def insert (l : Lexer) (count : Nat) (t : Token) : Lexer :=
  let later := l.count - count
  { l with tokens := l.tokens.take later ++ t :: l.tokens.drop later, count := l.count + 1 }

/-- Opens a block at a column, unless one that far in is open. -/
def openBlock (l : Lexer) (column : Nat) (put : Lexer → Lexer) : Lexer :=
  if l.inFlow || l.columns.head?.any (column ≤ ·) then l
  else { put l with columns := column :: l.columns }

/-- Closes the blocks that are further in than a column, or all of them. -/
def closeBlocks (l : Lexer) (column : Option Nat) : Lexer :=
  if l.inFlow then l
  else
    let (left, kept) := l.columns.span fun c => column.all (· < c)
    { left.foldl (fun l _ => l.add .blockEnd) l with columns := kept }

/-- Gives up the candidate, which is wrong if only a key may stand there. -/
def dropKey (l : Lexer) : Except Fault Lexer :=
  match l.candidate with
  | some k =>
    if k.required then faultAt [k.glyph] "could not find expected ':'"
    else .ok { l with candidate := none }
  | none => .ok l

/-- Makes the next token, at a glyph, the candidate, where a key may begin. -/
def mayBeKey (l : Lexer) (g : Glyph) : Except Fault Lexer :=
  if l.keyAllowed then do
    let l ← l.dropKey
    let required := !l.inFlow && l.columns.head? == some g.column
    return { l with candidate := some ⟨l.count, g, required⟩ }
  else .ok l

/-- The candidate, if a colon at a glyph can belong to it: a key and its colon stand on one
line and not more than 1024 bytes from each other. -/
def keyFor? (l : Lexer) (g : Glyph) : Except Fault (Option KeyPlace) :=
  match l.candidate with
  | none => .ok none
  | some k =>
    if k.glyph.line < g.line || k.glyph.offset + 1024 < g.offset then
      if k.required then faultAt [k.glyph] "could not find expected ':'" else .ok none
    else .ok (some k)

/-- One bracket further in. -/
def deeper (l : Lexer) : Lexer := { l with candidate := none, outer := l.candidate :: l.outer }

/-- One bracket further out. -/
def shallower (l : Lexer) : Lexer :=
  match l.outer with
  | k :: outer => { l with candidate := k, outer }
  | [] => l

/-- After a colon. A key is put before the candidate, with the start of a mapping where one
begins. -/
def atColon (l : Lexer) (g : Glyph) : Except Fault Lexer := do
  match ← l.keyFor? g with
  | some k =>
    let l := l.insert k.count .key
    let l := l.openBlock k.glyph.column fun l => l.insert k.count .mappingStart
    return { l with candidate := none, keyAllowed := false }.add .value
  | none =>
    if l.inFlow then return { l with candidate := none, keyAllowed := false }.add .value
    else if !l.keyAllowed then faultAt [g] "mapping values are not allowed in this context"
    else
      let l := l.openBlock g.column fun l => l.add .mappingStart
      return { l with candidate := none, keyAllowed := true }.add .value

/-- At a mark of a document or a directive every block ends. -/
def atMark (l : Lexer) : Except Fault Lexer := do
  let l ← (l.closeBlocks none).dropKey
  return { l with keyAllowed := false }

/-- An opening bracket, which may begin a key. -/
def opening (l : Lexer) (g : Glyph) (t : Token) : Except Fault Lexer := do
  let l ← l.mayBeKey g
  return { l.deeper with keyAllowed := true }.add t

/-- A closing bracket. -/
def closing (l : Lexer) (t : Token) : Except Fault Lexer := do
  let l ← l.dropKey
  return { l.shallower with keyAllowed := false }.add t

/-- A mark that stands for itself, outside of brackets where a block may begin. -/
def blockMark (l : Lexer) (g : Glyph) (t start : Token) (allowed : Bool) (reason : String) :
    Except Fault Lexer := do
  if !l.inFlow && !l.keyAllowed then faultAt [g] reason
  else
    let l ← (l.openBlock g.column fun l => l.add start).dropKey
    return { l with keyAllowed := allowed }.add t

/-- A token with no lines of its own, which may be a key. -/
def word (l : Lexer) (g : Glyph) (t : Token) : Except Fault Lexer := do
  let l ← l.mayBeKey g
  return { l with keyAllowed := false }.add t

end Lexer

/-- Passes over spaces, comments, line ends and byte order marks before the next token. Tabs may
not stand where a key may begin. Each step takes a character, so the length of the text is enough fuel. -/
def skipToToken (l : Lexer) : Nat → Glyphs → Lexer × Glyphs
  | 0, gs => (l, gs)
  | _ + 1, [] => (l, [])
  | fuel + 1, g :: rest =>
    if g.char == ' ' || g.isMark || (g.char == '\t' && (l.inFlow || !l.keyAllowed)) then
      skipToToken l fuel rest
    else if g.char == '#' then skipToToken l fuel (skipLine rest)
    else if g.isBreak then
      skipToToken (if l.inFlow then l else { l with keyAllowed := true }) fuel rest
    else (l, g :: rest)

/-- Tells whether a plain scalar may start here. -/
def startsPlain (flow : Bool) (g : Glyph) (rest : Glyphs) : Bool :=
  let c := g.char
  !(g.isSpace || isIndicator c || c == '-' || c == '?' || c == ':') ||
    (c == '-' && !rest.head?.any Glyph.isGap) ||
    (!flow && (c == '?' || c == ':') && !isApart rest)

/-- The next token, from its first character on. -/
def Lexer.next (l : Lexer) (fuel : Nat) (g : Glyph) (rest : Glyphs) :
    Except Fault (Lexer × Glyphs) := do
  let gs := g :: rest
  let flow := l.inFlow
  let column := l.columns.head?
  if g.column == 0 && g.char == '%' then
    let l ← l.atMark
    let (t, rest) ← directive rest
    return (l.add t, rest)
  else if isTriple '-' gs then
    return ((← l.atMark).add .documentStart, rest.drop 2)
  else if isTriple '.' gs then
    return ((← l.atMark).add .documentEnd, rest.drop 2)
  else if g.char == '[' then return (← l.opening g .flowSequenceStart, rest)
  else if g.char == '\x7b' then return (← l.opening g .flowMappingStart, rest)
  else if g.char == ']' then return (← l.closing .flowSequenceEnd, rest)
  else if g.char == '\x7d' then return (← l.closing .flowMappingEnd, rest)
  else if g.char == ',' then
    let l ← l.dropKey
    return ({ l with keyAllowed := true }.add .comma, rest)
  else if g.char == '-' && isApart rest then
    let reason := "block sequence entries are not allowed in this context"
    return (← l.blockMark g .dash .sequenceStart true reason, rest)
  else if g.char == '?' && (flow || isApart rest) then
    let reason := "mapping keys are not allowed in this context"
    return (← l.blockMark g .key .mappingStart (!flow) reason, rest)
  else if g.char == ':' && (flow || isApart rest) then return (← l.atColon g, rest)
  else if g.char == '*' then
    let (n, rest) ← name rest
    return (← l.word g (.alias n), rest)
  else if g.char == '&' then
    let (n, rest) ← name rest
    return (← l.word g (.anchor n), rest)
  else if g.char == '!' then
    let (t, rest) ← tag flow gs
    return (← l.word g t, rest)
  else if !flow && (g.char == '|' || g.char == '>') then
    let l ← l.dropKey
    let literal := g.char == '|'
    let (text, rest) ← block literal column rest
    let written := if literal then Written.literal else .folded
    return ({ l with keyAllowed := true }.add (.scalar (String.ofList text) written), rest)
  else if g.char == '\'' || g.char == '"' then
    let (text, rest) ← quoted g.char fuel rest
    return (← l.word g (.scalar (String.ofList text) .quoted), rest)
  else if startsPlain flow g rest then
    let l ← l.mayBeKey g
    let (text, broken, rest) ← plain flow (column.elim 0 (· + 1)) fuel gs
    return ({ l with keyAllowed := broken }.add (.scalar (String.ofList text) .plain), rest)
  else faultAt gs "found character that cannot start any token"

/-- The tokens of the rest of a text. Each takes a character at least, so the length of the
text is enough fuel. -/
def Lexer.scan (l : Lexer) : Nat → Glyphs → Except Fault (List Token)
  | 0, _ => .ok l.tokens.reverse
  | fuel + 1, gs => do
    let (l, gs) := skipToToken l (fuel + 1) gs
    match gs with
    | [] =>
      let l ← l.atMark
      return l.tokens.reverse
    | g :: rest =>
      let (l, rest) ← (l.closeBlocks (some g.column)).next (fuel + 1) g rest
      scan l fuel rest

/-- The tokens of a text. -/
def tokens (s : List Char) : Except Fault (List Token) := do
  let gs ← glyphs s
  Lexer.start.scan (gs.length + 1) gs

end Rehearsal.Yaml
