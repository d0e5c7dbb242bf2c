import Rehearsal.Yaml.Glyph

/-!
# Tokens of a YAML text

The marks, names and scalars of a text, and the tokens that stand for where a
block of lines begins and ends. Tags are read here too: a tag is a handle and
what follows it, and handles are given a meaning by the document.
-/

namespace Rehearsal.Yaml

open Text

/-- How a scalar that is read was written. -/
inductive Written where
  | plain
  | quoted
  | literal
  | folded
  deriving DecidableEq

/-- A part of a YAML text. -/
inductive Token where
  | documentStart
  | documentEnd
  /-- The version of YAML that a document asks for. -/
  | version (major minor : Nat)
  /-- What a handle of tags stands for. -/
  | tagHandle (handle : String) (meaning : Bytes)
  | sequenceStart
  | mappingStart
  /-- The end of a block sequence or of a block mapping. -/
  | blockEnd
  | flowSequenceStart
  | flowSequenceEnd
  | flowMappingStart
  | flowMappingEnd
  /-- The dash before an item. -/
  | dash
  | comma
  /-- What stands before a key, in the text or by itself. -/
  | key
  | value
  | alias (name : String)
  | anchor (name : String)
  | tag (handle : String) (rest : Bytes)
  | scalar (text : String) (written : Written)
  deriving DecidableEq

/-! ### Names -/

/-- The characters that may stand right behind the name of an anchor. -/
def endsName (gs : Glyphs) : Bool :=
  isApart gs || gs.head?.any fun g =>
    ['?', ':', ',', ']', '\x7d', '%', '@', Char.ofNat 0x60].contains g.char

/-- The name of an anchor or an alias. -/
def name (gs : Glyphs) : Except Fault (String × Glyphs) :=
  let (word, rest) := gs.span Glyph.isWord
  if word.isEmpty || !endsName rest then
    faultAt rest "did not find expected alphabetic or numeric character"
  else .ok (String.ofList (chars word), rest)

/-! ### Tags -/

/-- The characters of a tag that stand for themselves. Those of a list may stand only
between angle brackets or in a directive. -/
def isTagChar (wide : Bool) (g : Glyph) : Bool :=
  g.isWord || [';', '/', '?', ':', '@', '&', '=', '+', '$', '.', '!', '~', '*', '\'', '(',
    ')'].contains g.char || (wide && [',', '[', ']'].contains g.char)

/-- A byte as two hexadecimal digits after a percent sign. -/
def percentByte (gs : Glyphs) : Except Fault (Nat × Glyphs) :=
  match gs with
  | p :: a :: b :: rest =>
    match hexValue? a.char, hexValue? b.char with
    | some x, some y =>
      if p.char == '%' then .ok (x * 16 + y, rest)
      else faultAt gs "did not find URI escaped octet"
    | _, _ => faultAt gs "did not find URI escaped octet"
  | _ => faultAt gs "did not find URI escaped octet"

/-- The bytes of a character that follow its first one. -/
def trailingBytes : (count : Nat) → Glyphs → Except Fault (Bytes × Glyphs)
  | 0, gs => .ok ([], gs)
  | count + 1, gs => do
    let (b, rest) ← percentByte gs
    if b / 64 != 2 then faultAt gs "found an incorrect trailing UTF-8 octet"
    else
      let (more, rest) ← trailingBytes count rest
      return (UInt8.ofNat b :: more, rest)

/-- A character of a tag that is given byte for byte. -/
def percentChar (gs : Glyphs) : Except Fault (Bytes × Glyphs) := do
  let (b, rest) ← percentByte gs
  let count ←
    if b < 0x80 then pure 0
    else if b / 32 == 6 then pure 1
    else if b / 16 == 14 then pure 2
    else if b / 8 == 30 then pure 3
    else faultAt gs "found an incorrect leading UTF-8 octet"
  let (more, rest) ← trailingBytes count rest
  return (UInt8.ofNat b :: more, rest)

/-- The characters of a tag. Each step takes one, so the length of the text is enough fuel. -/
def tagChars (wide : Bool) : Nat → Glyphs → Except Fault (Bytes × Glyphs)
  | 0, gs => .ok ([], gs)
  | _ + 1, [] => .ok ([], [])
  | fuel + 1, g :: rest =>
    if g.char == '%' then do
      let (bytes, rest) ← percentChar (g :: rest)
      let (more, rest) ← tagChars wide fuel rest
      return (bytes ++ more, rest)
    else if isTagChar wide g then do
      let (more, rest) ← tagChars wide fuel rest
      return (Utf8.encode [g.char] ++ more, rest)
    else .ok ([], g :: rest)

/-- At least one character of a tag. -/
def tagText (wide : Bool) (gs : Glyphs) : Except Fault (Bytes × Glyphs) := do
  let (bytes, rest) ← tagChars wide gs.length gs
  if bytes.isEmpty then faultAt rest "did not find expected tag URI" else return (bytes, rest)

/-- The exclamation mark of a tag, the word behind it and a second mark, if there is one. -/
def handle (gs : Glyphs) : Except Fault (String × Bool × Glyphs) :=
  match gs with
  | [] => faultAt [] "did not find expected '!'"
  | g :: rest =>
    if g.char != '!' then faultAt gs "did not find expected '!'"
    else
      let (word, rest) := rest.span Glyph.isWord
      let opening := '!' :: chars word
      if startsWith '!' rest then .ok (String.ofList (opening ++ ['!']), true, rest.drop 1)
      else .ok (String.ofList opening, false, rest)

/-- A tag, before its exclamation mark: whole between angle brackets, or a handle and a rest,
or the mark alone. -/
def tag (flow : Bool) (gs : Glyphs) : Except Fault (Token × Glyphs) := do
  let (token, rest) ←
    if startsWith '<' (gs.drop 1) then do
      let (bytes, rest) ← tagText true (gs.drop 2)
      if startsWith '>' rest then pure (Token.tag "" bytes, rest.drop 1)
      else faultAt rest "did not find the expected '>'"
    else do
      let (h, closed, rest) ← handle gs
      if closed then do
        let (bytes, rest) ← tagText false rest
        pure (Token.tag h bytes, rest)
      else do
        let (bytes, rest) ← tagChars false rest.length rest
        let bytes := Utf8.encode (h.toList.drop 1) ++ bytes
        if bytes.isEmpty then pure (Token.tag "" (Utf8.encode ['!']), rest)
        else pure (Token.tag "!" bytes, rest)
  if isApart rest || (flow && startsWith ',' rest) then return (token, rest)
  else faultAt rest "did not find expected whitespace or line break"

/-! ### Directives -/

/-- A number of a version. -/
def versionNumber (gs : Glyphs) : Except Fault (Nat × Glyphs) :=
  let (digits, rest) := gs.span fun g => g.char.isDigit
  if digits.isEmpty then faultAt rest "did not find expected version number"
  else if 9 < digits.length then faultAt rest "found extremely long version number"
  else .ok ((digits.filterMap fun g => digitValue? g.char).foldl (fun n d => n * 10 + d) 0, rest)

/-- The version of YAML: two numbers with a point between them. -/
def version (gs : Glyphs) : Except Fault (Token × Glyphs) := do
  let (major, rest) ← versionNumber (skipGap gs)
  if !startsWith '.' rest then faultAt rest "did not find expected digit or '.' character"
  else
    let (minor, rest) ← versionNumber (rest.drop 1)
    return (.version major minor, rest)

/-- A handle of tags and what it stands for. -/
def tagHandle (gs : Glyphs) : Except Fault (Token × Glyphs) := do
  let (h, closed, rest) ← handle (skipGap gs)
  if !closed && h != "!" then faultAt rest "did not find expected '!'"
  else if !(startsWith ' ' rest || startsWith '\t' rest) then
    faultAt rest "did not find expected whitespace"
  else
    let (bytes, rest) ← tagText true (skipGap rest)
    if isApart rest then return (.tagHandle h bytes, rest)
    else faultAt rest "did not find expected whitespace or line break"

/-- A directive, after its percent sign, with the rest of its line. -/
def directive (gs : Glyphs) : Except Fault (Token × Glyphs) := do
  let (word, rest) := gs.span Glyph.isWord
  if word.isEmpty then faultAt rest "could not find expected directive name"
  else if !isApart rest then faultAt rest "found unexpected non-alphabetical character"
  else
    let (token, rest) ←
      match String.ofList (chars word) with
      | "YAML" => version rest
      | "TAG" => tagHandle rest
      | _ => faultAt gs "found unknown directive name"
    let rest ← endLine rest
    return (token, rest)

end Rehearsal.Yaml
