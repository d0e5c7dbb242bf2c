import Rehearsal.Json.Number

/-!
# Reading JSON

The pieces of JSON text as readers, and the reader of a whole document. Lists and
objects may be nested to `maxDepth`. A value that nobody asked for is passed over
without building it, to any depth, and less strictly: the size of its numbers and
the pairing of its surrogates are not looked at.
-/

namespace Rehearsal.Json

open Text

/-- How many lists and objects may be open at once. -/
def maxDepth : Nat := 127

/-- The four characters that may stand between the parts of a text. -/
def isSpace (c : Char) : Bool := c == ' ' || c == '\n' || c == '\t' || c == '\r'

/-- The text from its first character that is not space. -/
def skipSpace (cs : List Char) : List Char := cs.dropWhile isSpace

/-- The rest of a literal such as `null`. It stops after the first character that
differs. -/
def word : List Char → List Char → Except Stop (List Char)
  | [], cs => .ok cs
  | _ :: _, [] => stopBefore .endInValue []
  | w :: ws, c :: rest => if w = c then word ws rest else stopAfter .expectedIdent (c :: rest)

/-- Four hexadecimal digits. Four bytes are taken before they are looked at. -/
def hexUnit : Reader Nat := fun cs =>
  match cs with
  | a :: b :: c :: d :: rest =>
    match hexValue? a, hexValue? b, hexValue? c, hexValue? d with
    | some a, some b, some c, some d => .ok (((a * 16 + b) * 16 + c) * 16 + d, rest)
    | _, _, _, _ => .error ⟨.invalidEscape, Utf8.length cs - 4⟩
  | _ =>
    if Utf8.length cs < 4 then stopBefore .endInString []
    else .error ⟨.invalidEscape, Utf8.length cs - 4⟩

/-- The character of an escape by number, after its `u`. A character beyond U+FFFF is
written as a leading and a trailing surrogate. -/
def unicodeEscape : Reader Char := fun cs => do
  let (n, rest) ← hexUnit cs
  if 0xdc00 ≤ n && n ≤ 0xdfff then stopBefore .loneSurrogate rest
  else if n < 0xd800 || 0xdbff < n then return (Char.ofNat n, rest)
  else
    match rest with
    | [] => stopBefore .endInString []
    | '\\' :: [] => stopBefore .endInString []
    | '\\' :: 'u' :: rest =>
      let (m, rest) ← hexUnit rest
      if 0xdc00 ≤ m && m ≤ 0xdfff then
        return (Char.ofNat ((n - 0xd800) * 0x400 + (m - 0xdc00) + 0x10000), rest)
      else stopBefore .loneSurrogate rest
    | '\\' :: c :: rest => stopAfter .unpairedSurrogate (c :: rest)
    | c :: rest => stopAfter .unpairedSurrogate (c :: rest)

/-- An escape, after its backslash. `numbered` reads what follows `u`. -/
def escape (numbered : Reader Char) : Reader Char
  | [] => stopBefore .endInString []
  | '"' :: rest => .ok ('"', rest)
  | '\\' :: rest => .ok ('\\', rest)
  | '/' :: rest => .ok ('/', rest)
  | 'b' :: rest => .ok ('\x08', rest)
  | 'f' :: rest => .ok ('\x0c', rest)
  | 'n' :: rest => .ok ('\n', rest)
  | 'r' :: rest => .ok ('\r', rest)
  | 't' :: rest => .ok ('\t', rest)
  | 'u' :: rest => numbered rest
  | c :: rest => stopAfter .invalidEscape (c :: rest)

/-- The characters up to the closing quote. Each step takes a character at least, so
the length of the text is enough fuel. -/
def chars : Nat → Reader (List Char)
  | 0, _ => stopBefore .endInString []
  | _ + 1, [] => stopBefore .endInString []
  | fuel + 1, c :: rest =>
    if c = '"' then .ok ([], rest)
    else if c = '\\' then do
      let (c, rest) ← escape unicodeEscape rest
      let (s, rest) ← chars fuel rest
      return (c :: s, rest)
    else if c.toNat < 0x20 then stopAfter .controlCharacter (c :: rest)
    else do
      let (s, rest) ← chars fuel rest
      return (c :: s, rest)

/-- A string, after its opening quote. -/
def string : Reader String := fun cs => do
  let (s, rest) ← chars (cs.length + 1) cs
  return (String.ofList s, rest)

/-- Passes over an escape by number, whichever number it is. -/
def passUnit : Reader Char := fun cs => do
  let (_, rest) ← hexUnit cs
  return ('u', rest)

/-- Passes over the characters up to the closing quote. It stops in front of a control
character. -/
def passChars : Nat → List Char → Except Stop (List Char)
  | 0, _ => stopBefore .endInString []
  | _ + 1, [] => stopBefore .endInString []
  | fuel + 1, c :: rest =>
    if c = '"' then .ok rest
    else if c = '\\' then do
      let (_, rest) ← escape passUnit rest
      passChars fuel rest
    else if c.toNat < 0x20 then stopBefore .controlCharacter (c :: rest)
    else passChars fuel rest

/-- Passes over a string, after its opening quote. -/
def passString (cs : List Char) : Except Stop (List Char) := passChars (cs.length + 1) cs

/-- The colon between a key and its value. -/
def colon (cs : List Char) : Except Stop (List Char) :=
  match skipSpace cs with
  | ':' :: rest => .ok rest
  | [] => stopBefore .endInObject []
  | cs => stopAfter .expectedColon cs

/-- What comes next in a list or an object: one more member, or the end. -/
inductive Next where
  | more (cs : List Char)
  | finished (rest : List Char)

/-- The next item of a list, or its end. The end is taken off the text. -/
def nextItem (first : Bool) (cs : List Char) : Except Stop Next :=
  match skipSpace cs with
  | [] => stopBefore .endInList []
  | ']' :: rest => .ok (.finished rest)
  | c :: rest =>
    if first then .ok (.more (c :: rest))
    else if c = ',' then
      match skipSpace rest with
      | [] => stopBefore .endInValue []
      | ']' :: rest => stopAfter .trailingComma (']' :: rest)
      | cs => .ok (.more cs)
    else stopAfter .expectedListCommaOrEnd (c :: rest)

/-- The next key of an object, after its opening quote, or the end of the object. -/
def nextKey (first : Bool) (cs : List Char) : Except Stop Next :=
  match skipSpace cs with
  | [] => stopBefore .endInObject []
  | '\x7d' :: rest => .ok (.finished rest)
  | c :: rest =>
    if first then
      if c = '"' then .ok (.more rest) else stopAfter .keyMustBeString (c :: rest)
    else if c = ',' then
      match skipSpace rest with
      | [] => stopBefore .endInValue []
      | '"' :: rest => .ok (.more rest)
      | '\x7d' :: rest => stopAfter .trailingComma ('\x7d' :: rest)
      | cs => stopAfter .keyMustBeString cs
    else stopAfter .expectedObjectCommaOrEnd (c :: rest)

/-- The items of a list, after its bracket. -/
def items {α : Type} (item : Reader α) : Nat → Bool → Reader (List α)
  | 0, _, _ => stopBefore .endInList []
  | fuel + 1, first, cs => do
    match ← nextItem first cs with
    | .finished rest => return ([], rest)
    | .more cs =>
      let (x, rest) ← item cs
      let (xs, rest) ← items item fuel false rest
      return (x :: xs, rest)

/-- The members of an object, after its brace. `member` gets what has been gathered
so far and a key, and reads from behind the key. -/
def members {σ : Type} (member : σ → String → Reader σ) : Nat → Bool → σ → Reader σ
  | 0, _, _, _ => stopBefore .endInObject []
  | fuel + 1, first, gathered, cs => do
    match ← nextKey first cs with
    | .finished rest => return (gathered, rest)
    | .more cs =>
      let (key, rest) ← string cs
      let (gathered, rest) ← member gathered key rest
      members member fuel false gathered rest

/-- A value whose items and fields are read by `inner`, if they may be there. -/
def valueWith (inner : Option (Reader Json)) : Reader Json := fun cs => do
  match skipSpace cs with
  | [] => stopBefore .endInValue []
  | 'n' :: rest => return (.null, ← word ['u', 'l', 'l'] rest)
  | 't' :: rest => return (.bool true, ← word ['r', 'u', 'e'] rest)
  | 'f' :: rest => return (.bool false, ← word ['a', 'l', 's', 'e'] rest)
  | '"' :: rest =>
    let (s, rest) ← string rest
    return (.str s, rest)
  | '[' :: rest =>
    match inner with
    | none => stopAfter .recursionLimit ('[' :: rest)
    | some inner =>
      let (xs, rest) ← items inner (rest.length + 1) true rest
      return (.arr xs, rest)
  | '\x7b' :: rest =>
    match inner with
    | none => stopAfter .recursionLimit ('\x7b' :: rest)
    | some inner =>
      let field (fields : List (String × Json)) (key : String) : Reader _ := fun cs => do
        let (v, rest) ← inner (← colon cs)
        return (insertField key v fields, rest)
      let (fields, rest) ← members field (rest.length + 1) true [] rest
      return (.obj fields, rest)
  | c :: rest =>
    if c = '-' || c.isDigit then number c rest else stopAfter .expectedValue (c :: rest)

/-- A value in which at most `depth` lists and objects are open at once. -/
def value : (depth : Nat) → Reader Json
  | 0 => valueWith none
  | depth + 1 => valueWith (some (value depth))

/-- A list or an object that is being passed over. -/
inductive Open where
  | list
  | object

/-- The text of the next item, or of the value under the next key. -/
def Open.enter (o : Open) (cs : List Char) : Except Stop (List Char) :=
  match o with
  | .list => .ok cs
  | .object => do
    match skipSpace cs with
    | [] => stopBefore .endInObject []
    | '"' :: rest => colon (← passString rest)
    | cs => stopAfter .keyMustBeString cs

/-- What follows a passed value: the rest after the outermost one, or the next value
inside those still open. -/
def leave : List Open → List Char → Except Stop (List Open × List Char)
  | [], cs => .ok ([], cs)
  | o :: outer, cs =>
    match skipSpace cs, o with
    | ',' :: rest, o => do return (o :: outer, ← o.enter rest)
    | ']' :: rest, .list => leave outer rest
    | '\x7d' :: rest, .object => leave outer rest
    | [], .list => stopBefore .endInList []
    | [], .object => stopBefore .endInObject []
    | cs, .list => stopAfter .expectedListCommaOrEnd cs
    | cs, .object => stopAfter .expectedObjectCommaOrEnd cs

/-- Passes over a value inside the given open ones, and over the rest of those. -/
def passFrom : Nat → List Open → List Char → Except Stop (List Char)
  | 0, _, _ => stopBefore .endInValue []
  | fuel + 1, opened, cs => do
    let (opened, cs) ←
      match skipSpace cs with
      | [] => stopBefore .endInValue []
      | 'n' :: rest => leave opened (← word ['u', 'l', 'l'] rest)
      | 't' :: rest => leave opened (← word ['r', 'u', 'e'] rest)
      | 'f' :: rest => leave opened (← word ['a', 'l', 's', 'e'] rest)
      | '"' :: rest => leave opened (← passString rest)
      | '[' :: rest =>
        match skipSpace rest with
        | [] => stopBefore .endInList []
        | ']' :: rest => leave opened rest
        | cs => pure (.list :: opened, cs)
      | '\x7b' :: rest =>
        match skipSpace rest with
        | [] => stopBefore .endInObject []
        | '\x7d' :: rest => leave opened rest
        | cs => do pure (.object :: opened, ← Open.enter .object cs)
      | c :: rest =>
        if c = '-' then leave opened (← passNumber rest)
        else if c.isDigit then leave opened (← passNumber (c :: rest))
        else stopAfter .expectedValue (c :: rest)
    if opened.isEmpty then return cs else passFrom fuel opened cs

/-- Passes over one value. -/
def pass (cs : List Char) : Except Stop (List Char) := passFrom (cs.length + 1) [] cs

/-- Reads a whole text: one value, with nothing but space around it. -/
def document {α : Type} (reader : Reader α) (text : List Char) : Except Fault α :=
  let result := do
    let (x, rest) ← reader text
    match skipSpace rest with
    | [] => pure x
    | cs => stopAfter .trailingCharacters cs
  result.mapError fun stop =>
    let (line, column) := placeAfter text (Utf8.length text - stop.left)
    ⟨stop.reason, line, column⟩

/-- The value that a text stands for. -/
def parse (text : String) : Except Fault Json := document (value maxDepth) text.toList

end Rehearsal.Json
