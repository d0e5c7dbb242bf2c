import Rehearsal.Json.Value
import Rehearsal.Text.Split
import Rehearsal.Yaml.Style

/-!
# YAML text of a value

The block layout: a field or an item on a line, two spaces for each level, and
the items of a list no further in than the key that they belong to. Each part
of the text ends its last line, so that parts are put one after another.
-/

namespace Rehearsal.Yaml

open Text

/-- Fractions are written with a point from 0.00001 up to below 10 ^ 16, and elsewhere with an
exponent that has a sign only below zero. -/
def floatLayout : Binary64.Layout := ⟨5, 16, false⟩

/-- The space before a line. -/
def space (indent : Nat) : List Char := List.replicate indent ' '

/-- The text with its last line ended. -/
def ended (s : List Char) : List Char := if s.getLast?.any isBreak then s else s ++ ['\n']

/-- The text of a value that holds no others, inside a part that is indented by `indent`. -/
def scalar (indent : Nat) : Json → List Char
  | .null => ['n', 'u', 'l', 'l']
  | .bool true => ['t', 'r', 'u', 'e']
  | .bool false => ['f', 'a', 'l', 's', 'e']
  | .int n => (toString n).toList
  | .float x => x.text floatLayout
  | .str s => string (indent + 2) s.toList
  | .arr _ => ['[', ']']
  | .obj _ => ['\x7b', '\x7d']

/-- A key stands before its colon on one line if it has one line and at most 128 bytes. -/
def isShort (key : List Char) : Bool := !key.any isBreak && Utf8.length key ≤ 128

mutual

/-- A value on the line of its dash or of its mark. -/
def inline (indent : Nat) : Json → List Char
  | .arr (item :: rest) => joinWith (space (indent + 2)) (items (indent + 2) (item :: rest))
  | .obj (field :: rest) => joinWith (space (indent + 2)) (fields (indent + 2) (field :: rest))
  | .null => ended (scalar indent .null)
  | .bool b => ended (scalar indent (.bool b))
  | .int n => ended (scalar indent (.int n))
  | .float x => ended (scalar indent (.float x))
  | .str s => ended (scalar indent (.str s))
  | .arr [] => ended (scalar indent (.arr []))
  | .obj [] => ended (scalar indent (.obj []))

/-- The lines of each item of a list. -/
def items (indent : Nat) : List Json → List (List Char)
  | [] => []
  | item :: rest => ('-' :: ' ' :: inline indent item) :: items indent rest

/-- The lines of each field of an object. -/
def fields (indent : Nat) : List (String × Json) → List (List Char)
  | [] => []
  | (key, value) :: rest =>
    let k := string (indent + 2) key.toList
    (if isShort key.toList then
      k ++ ':' ::
        match value with
        | .arr (item :: rest) =>
          '\n' :: space indent ++ joinWith (space indent) (items indent (item :: rest))
        | .obj (field :: rest) =>
          '\n' :: space (indent + 2) ++
            joinWith (space (indent + 2)) (fields (indent + 2) (field :: rest))
        | .null => ' ' :: ended (scalar indent .null)
        | .bool b => ' ' :: ended (scalar indent (.bool b))
        | .int n => ' ' :: ended (scalar indent (.int n))
        | .float x => ' ' :: ended (scalar indent (.float x))
        | .str s => ' ' :: ended (scalar indent (.str s))
        | .arr [] => ' ' :: ended (scalar indent (.arr []))
        | .obj [] => ' ' :: ended (scalar indent (.obj []))
    else '?' :: ' ' :: ended k ++ space indent ++ ':' :: ' ' :: inline indent value) ::
      fields indent rest

end

/-- The text of a document. -/
def document : Json → List Char
  | .arr (item :: rest) => (items 0 (item :: rest)).flatten
  | .obj (field :: rest) => (fields 0 (field :: rest)).flatten
  | v => ended (scalar 0 v)

end Rehearsal.Yaml
