import Rehearsal.Json.Value
import Rehearsal.Text.Hex

/-!
# JSON text of a value

Two layouts: compact, without any space, and pretty, with one item or field on
a line and two spaces for each level. Empty lists and objects stay on one line
in both.
-/

namespace Rehearsal.Json

open Text

/-- Fractions are written with a point from 0.00001 up to below 10 ^ 16, and with a
signed exponent elsewhere. -/
def floatLayout : Binary64.Layout := ⟨5, 16, true⟩

/-- A character inside a string. Quotes, backslashes and controls are escaped. -/
def escapeChar (c : Char) : List Char :=
  match c with
  | '"' => ['\\', '"']
  | '\\' => ['\\', '\\']
  | '\x08' => ['\\', 'b']
  | '\x09' => ['\\', 't']
  | '\x0a' => ['\\', 'n']
  | '\x0c' => ['\\', 'f']
  | '\x0d' => ['\\', 'r']
  | c =>
    if c.toNat < 0x20 then
      ['\\', 'u', '0', '0', hexLower (c.toNat / 16), hexLower (c.toNat % 16)]
    else [c]

/-- A string in quotes. -/
def quote (s : String) : List Char := '"' :: s.toList.flatMap escapeChar ++ ['"']

/-- The text of a value that holds no others. -/
def intText (n : Int) : List Char := (toString n).toList

mutual

/-- The text without spaces. -/
def compact : Json → List Char
  | .null => ['n', 'u', 'l', 'l']
  | .bool true => ['t', 'r', 'u', 'e']
  | .bool false => ['f', 'a', 'l', 's', 'e']
  | .int n => intText n
  | .float x => x.text floatLayout
  | .str s => quote s
  | .arr items => '[' :: compactItems items ++ [']']
  | .obj fields => '\x7b' :: compactFields fields ++ ['\x7d']

def compactItems : List Json → List Char
  | [] => []
  | [item] => compact item
  | item :: next :: rest => compact item ++ ',' :: compactItems (next :: rest)

def compactFields : List (String × Json) → List Char
  | [] => []
  | [(key, value)] => quote key ++ ':' :: compact value
  | (key, value) :: next :: rest =>
    quote key ++ ':' :: compact value ++ ',' :: compactFields (next :: rest)

end

/-- The start of a line at a level of the pretty layout. -/
def newLine (level : Nat) : List Char := '\n' :: List.replicate (2 * level) ' '

mutual

/-- The text with a line for each item and field. `level` is that of the value itself. -/
def pretty (level : Nat) : Json → List Char
  | .arr [] => ['[', ']']
  | .arr (item :: rest) =>
    '[' :: prettyItems (level + 1) (item :: rest) ++ newLine level ++ [']']
  | .obj [] => ['\x7b', '\x7d']
  | .obj (field :: rest) =>
    '\x7b' :: prettyFields (level + 1) (field :: rest) ++ newLine level ++ ['\x7d']
  | .null => compact .null
  | .bool b => compact (.bool b)
  | .int n => compact (.int n)
  | .float x => compact (.float x)
  | .str s => compact (.str s)

def prettyItems (level : Nat) : List Json → List Char
  | [] => []
  | [item] => newLine level ++ pretty level item
  | item :: next :: rest =>
    newLine level ++ pretty level item ++ ',' :: prettyItems level (next :: rest)

def prettyFields (level : Nat) : List (String × Json) → List Char
  | [] => []
  | [(key, value)] => newLine level ++ quote key ++ [':', ' '] ++ pretty level value
  | (key, value) :: next :: rest =>
    newLine level ++ quote key ++ [':', ' '] ++ pretty level value ++
      ',' :: prettyFields level (next :: rest)

end

/-- The compact text as a string. -/
def compactText (v : Json) : String := String.ofList v.compact

/-- The pretty text as a string. -/
def prettyText (v : Json) : String := String.ofList (v.pretty 0)

end Rehearsal.Json
