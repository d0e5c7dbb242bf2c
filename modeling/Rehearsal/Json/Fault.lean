import Rehearsal.Json.Printer
import Rehearsal.Text.Quoted
import Rehearsal.Text.Split
import Rehearsal.Text.Utf8

/-!
# What can be wrong with a JSON text

A text can break the rules of JSON, or it can hold a value of another shape than
the reader asked for. Both have a wording, and a place in the text: the line,
counted from one, and the bytes read since the start of the line.
-/

namespace Rehearsal.Json

open Text

/-- What was found where something else was asked for. -/
inductive Found where
  | null
  | bool (b : Bool)
  | int (n : Int)
  | float (x : Binary64)
  | str (s : String)
  | sequence
  | map

namespace Found

/-- What a value is found to be. -/
def ofValue : Json → Found
  | .null => .null
  | .bool b => .bool b
  | .int n => .int n
  | .float x => .float x
  | .str s => .str s
  | .arr _ => .sequence
  | .obj _ => .map

def message : Found → String
  | .null => "null"
  | .bool b => s!"boolean `{b}`"
  | .int n => s!"integer `{n}`"
  | .float x => s!"floating point `{String.ofList (x.text floatLayout)}`"
  | .str s => s!"string {quoted s}"
  | .sequence => "sequence"
  | .map => "map"

end Found

/-- A value that has the wrong shape for what it is read as. -/
inductive Mismatch where
  | wrongType (found : Found) (wanted : String)
  | outOfRange (found : Found) (wanted : String)
  | wrongLength (length : Nat) (wanted : String)
  | missingField (name : String)
  | duplicateField (name : String)
  | unknownVariant (name : String) (variants : List String)
  | other (message : String)

def Mismatch.message : Mismatch → String
  | .wrongType found wanted => s!"invalid type: {found.message}, expected {wanted}"
  | .outOfRange found wanted => s!"invalid value: {found.message}, expected {wanted}"
  | .wrongLength length wanted => s!"invalid length {length}, expected {wanted}"
  | .missingField name => s!"missing field `{name}`"
  | .duplicateField name => s!"duplicate field `{name}`"
  | .unknownVariant name variants =>
    let known := ", ".intercalate (variants.map fun variant => s!"`{variant}`")
    s!"unknown variant `{name}`, expected one of {known}"
  | .other message => message

/-- A reason not to accept a text. -/
inductive Reason where
  | endInValue
  | endInString
  | endInObject
  | endInList
  | expectedColon
  | expectedListCommaOrEnd
  | expectedObjectCommaOrEnd
  | expectedIdent
  | expectedValue
  | invalidEscape
  | invalidNumber
  | numberOutOfRange
  | loneSurrogate
  | unpairedSurrogate
  | controlCharacter
  | keyMustBeString
  | trailingComma
  | trailingCharacters
  | recursionLimit
  | mismatch (m : Mismatch)

def Reason.message : Reason → String
  | .endInValue => "EOF while parsing a value"
  | .endInString => "EOF while parsing a string"
  | .endInObject => "EOF while parsing an object"
  | .endInList => "EOF while parsing a list"
  | .expectedColon => "expected `:`"
  | .expectedListCommaOrEnd => "expected `,` or `]`"
  | .expectedObjectCommaOrEnd => "expected `,` or `\x7d`"
  | .expectedIdent => "expected ident"
  | .expectedValue => "expected value"
  | .invalidEscape => "invalid escape"
  | .invalidNumber => "invalid number"
  | .numberOutOfRange => "number out of range"
  | .loneSurrogate => "lone leading surrogate in hex escape"
  | .unpairedSurrogate => "unexpected end of hex escape"
  | .controlCharacter => "control character (\\u0000-\\u001F) found while parsing a string"
  | .keyMustBeString => "key must be a string"
  | .trailingComma => "trailing comma"
  | .trailingCharacters => "trailing characters"
  | .recursionLimit => "recursion limit exceeded"
  | .mismatch m => m.message

/-- A reason with its place in the text. -/
structure Fault where
  reason : Reason
  line : Nat
  column : Nat

def Fault.message (f : Fault) : String :=
  s!"{f.reason.message} at line {f.line} column {f.column}"

/-- The line and the column after the first `count` bytes of a text. -/
def placeAfter (text : List Char) (count : Nat) : Nat × Nat :=
  let lines := splitAt (fun b => b == 0x0a) ((Utf8.encode text).take count)
  (lines.length, (lines.getLast?.getD []).length)

end Rehearsal.Json
