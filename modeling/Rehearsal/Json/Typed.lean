import Rehearsal.Json.Reader
import Rehearsal.Record

/-!
# Reading JSON text as a known shape

Readers for texts of which the shape is known beforehand. A record is an object
of its fields in any order, or a list of them in their own order. Fields that
the record does not have are passed over. The first thing that is wrong, from
left to right, is the one that is told, be it JSON or the shape.
-/

namespace Rehearsal.Json

open Text

/-- Stops because of the shape of a value. -/
def mismatch {α : Type} (m : Mismatch) (rest : List Char) : Except Stop α :=
  stopBefore (.mismatch m) rest

/-- Stops at a value of the wrong type. A value of one piece is read first, so what
is wrong inside it comes first. -/
def wrongType {α : Type} (wanted : String) (cs : List Char) : Except Stop α := do
  let wrong (found : Found) (rest : List Char) := mismatch (α := α) (.wrongType found wanted) rest
  match cs with
  | 'n' :: rest => wrong .null (← word ['u', 'l', 'l'] rest)
  | 't' :: rest => wrong (.bool true) (← word ['r', 'u', 'e'] rest)
  | 'f' :: rest => wrong (.bool false) (← word ['a', 'l', 's', 'e'] rest)
  | '"' :: rest =>
    let (s, rest) ← string rest
    wrong (.str s) rest
  | '[' :: _ => wrong .sequence cs
  | '\x7b' :: _ => wrong .map cs
  | c :: rest =>
    if c = '-' || c.isDigit then
      let (n, rest) ← number c rest
      wrong (.ofValue n) rest
    else stopAfter .expectedValue (c :: rest)
  | [] => stopAfter .expectedValue []

/-- A string, made into something else. -/
def textAs {α : Type} (wanted : String) (make : String → Except Mismatch α) : Reader α := fun cs =>
  match skipSpace cs with
  | [] => stopBefore .endInValue []
  | '"' :: rest => do
    let (s, rest) ← string rest
    match make s with
    | .ok x => return (x, rest)
    | .error m => mismatch m rest
  | cs => wrongType wanted cs

/-- A string. -/
def text : Reader String := textAs "a string" .ok

/-- The path of a file or folder. -/
def path : Reader String := textAs "path string" .ok

/-- A truth value. -/
def flag : Reader Bool := fun cs =>
  match skipSpace cs with
  | [] => stopBefore .endInValue []
  | 't' :: rest => do return (true, ← word ['r', 'u', 'e'] rest)
  | 'f' :: rest => do return (false, ← word ['a', 'l', 's', 'e'] rest)
  | cs => wrongType "a boolean" cs

/-- A whole number below `2 ^ bits`. -/
def unsigned (bits : Nat) (wanted : String) : Reader Nat := fun cs =>
  match skipSpace cs with
  | [] => stopBefore .endInValue []
  | c :: rest =>
    if c = '-' || c.isDigit then do
      let (n, rest) ← number c rest
      match n with
      | .int n =>
        if 0 ≤ n && n.toNat < 1 <<< bits then return (n.toNat, rest)
        else mismatch (.outOfRange (.int n) wanted) rest
      | n => mismatch (.wrongType (.ofValue n) wanted) rest
    else wrongType wanted (c :: rest)

/-- A value or `null`. -/
def optional {α : Type} (inner : Reader α) : Reader (Option α) := fun cs =>
  match skipSpace cs with
  | 'n' :: rest => do return (none, ← word ['u', 'l', 'l'] rest)
  | cs => do
    let (x, rest) ← inner cs
    return (some x, rest)

/-- A list. Its items are read one level deeper. -/
def list {α : Type} (item : (depth : Nat) → Reader α) (depth : Nat) : Reader (List α) := fun cs =>
  match skipSpace cs with
  | [] => stopBefore .endInValue []
  | '[' :: rest =>
    match depth with
    | 0 => stopAfter .recursionLimit ('[' :: rest)
    | depth + 1 => items (item depth) (rest.length + 1) true rest
  | cs => wrongType "a sequence" cs

/-- One of several names, or an object with that name as its one key and `null` below. -/
def variant {α : Type} (variants : List (String × α)) (depth : Nat) : Reader α := fun cs => do
  let pick (name : String) (rest : List Char) : Except Stop α :=
    match Table.get? name variants with
    | some x => .ok x
    | none => mismatch (.unknownVariant name (variants.map Prod.fst)) rest
  match skipSpace cs with
  | [] => stopBefore .endInValue []
  | '"' :: rest =>
    let (name, rest) ← string rest
    return (← pick name rest, rest)
  | '\x7b' :: rest =>
    if depth = 0 then stopAfter .recursionLimit ('\x7b' :: rest)
    else
      let (name, rest) ←
        match skipSpace rest with
        | [] => stopBefore .endInObject []
        | '"' :: rest => string rest
        | '\x7d' :: rest => stopAfter .expectedValue ('\x7d' :: rest)
        | cs => stopAfter .keyMustBeString cs
      let x ← pick name rest
      match skipSpace (← colon rest) with
      | [] => stopBefore .endInValue []
      | 'n' :: rest =>
        match skipSpace (← word ['u', 'l', 'l'] rest) with
        | [] => stopBefore .endInObject []
        | '\x7d' :: rest => return (x, rest)
        | cs => stopBefore .expectedValue cs
      | cs => wrongType "unit" cs
  | cs => stopAfter .expectedValue cs

/-- Reads a field into what has been read before. -/
abbrev Put (σ : Type) := (depth : Nat) → σ → Reader σ

/-- A field read by `reader` and stored by `store`. -/
def textField {σ α : Type} (name : String) (absent : Absence) (reader : (depth : Nat) → Reader α)
    (store : σ → α → σ) : Field (Put σ) :=
  ⟨name, absent, fun depth s cs => do
    let (x, rest) ← reader depth cs
    return (store s x, rest)⟩

/-- The end of a list in which all wanted items have been read. -/
def endOfItems (cs : List Char) : Except Stop (List Char) :=
  match skipSpace cs with
  | [] => stopBefore .endInList []
  | ']' :: rest => .ok rest
  | c :: rest =>
    if c = ',' then
      match skipSpace rest with
      | ']' :: rest => stopAfter .trailingComma (']' :: rest)
      | cs => stopAfter .trailingCharacters cs
    else stopAfter .trailingCharacters (c :: rest)

/-- The fields of a record from a list, after its bracket. `index` fields have been
read. -/
def fieldsInOrder {σ : Type} (shape : Shape σ (Put σ)) (depth : Nat) :
    List (Field (Put σ)) → (index : Nat) → σ → Reader σ
  | [], _, s, cs => do return (s, ← endOfItems cs)
  | f :: fs, index, s, cs => do
    match ← nextItem (index == 0) cs with
    | .more cs =>
      let (s, rest) ← f.put depth s cs
      fieldsInOrder shape depth fs (index + 1) s rest
    | .finished rest =>
      match (f :: fs).findIdx? fun f => f.absent != .allowed with
      | none => return (s, rest)
      | some i => mismatch (.wrongLength (index + i) shape.wantedWhole) rest

/-- One field of a record from an object: what has been read, and the names seen. -/
def namedField {σ : Type} (shape : Shape σ (Put σ)) (depth : Nat) (read : σ × List String)
    (key : String) : Reader (σ × List String) := fun cs => do
  match shape.field? key with
  | none => return (read, ← pass (← colon cs))
  | some f =>
    if read.2.contains key then
      match skipSpace cs with
      | '\x7d' :: rest => mismatch (.duplicateField key) rest
      | cs => mismatch (.duplicateField key) cs
    else
      let (s, rest) ← f.put depth read.1 (← colon cs)
      return ((s, key :: read.2), rest)

/-- A record. -/
def record {σ : Type} (shape : Shape σ (Put σ)) (depth : Nat) : Reader σ := fun cs =>
  match skipSpace cs with
  | [] => stopBefore .endInValue []
  | '[' :: rest =>
    match depth with
    | 0 => stopAfter .recursionLimit ('[' :: rest)
    | depth + 1 => fieldsInOrder shape depth shape.fields 0 shape.start rest
  | '\x7b' :: rest =>
    match depth with
    | 0 => stopAfter .recursionLimit ('\x7b' :: rest)
    | depth + 1 => do
      let ((s, seen), rest) ←
        members (namedField shape depth) (rest.length + 1) true (shape.start, []) rest
      match shape.missing? seen with
      | some name => mismatch (.missingField name) rest
      | none => return (s, rest)
  | cs => wrongType shape.wanted cs

end Rehearsal.Json
