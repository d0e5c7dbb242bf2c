import Rehearsal.Json.Fault
import Rehearsal.Record

/-!
# Values of a known shape

The same shapes as in JSON text, taken from a value that has already been read.
The fields of an object are looked at in the order of their keys, then the
fields that are not there in the order of the record.
-/

namespace Rehearsal.Json

/-- Takes something of one shape out of a value. -/
abbrev Decoder (α : Type) := Json → Except Mismatch α

def asText : Decoder String
  | .str s => .ok s
  | v => .error (.wrongType (.ofValue v) "a string")

def asFlag : Decoder Bool
  | .bool b => .ok b
  | v => .error (.wrongType (.ofValue v) "a boolean")

/-- A value or `null`. -/
def asOptional {α : Type} (inner : Decoder α) : Decoder (Option α)
  | .null => .ok none
  | v => (inner v).map some

def asList {α : Type} (item : Decoder α) : Decoder (List α)
  | .arr items => items.mapM item
  | v => .error (.wrongType (.ofValue v) "a sequence")

/-- Takes a field out of its value into what has been read before. -/
abbrev PutValue (σ : Type) := Json → σ → Except Mismatch σ

/-- A field taken by `decoder` and stored by `store`. -/
def valueField {σ α : Type} (name : String) (absent : Absence) (decoder : Decoder α)
    (store : σ → α → σ) : Field (PutValue σ) :=
  ⟨name, absent, fun v s => (decoder v).map (store s)⟩

/-- Takes a named value into a record. A name that the record does not have is passed
over. -/
def putField {σ : Type} (shape : Shape σ (PutValue σ)) (s : σ) (field : String × Json) :
    Except Mismatch σ :=
  match shape.field? field.1 with
  | some f => f.put field.2 s
  | none => .ok s

/-- The fields of a record from named values. -/
def fromFields {σ : Type} (shape : Shape σ (PutValue σ)) (fields : List (String × Json)) :
    Except Mismatch σ := do
  let s ← fields.foldlM (putField shape) shape.start
  match shape.missing? (fields.map Prod.fst) with
  | some name => .error (.missingField name)
  | none => .ok s

/-- The fields of a record from values in order, `index` of which have been taken. -/
def fromItems {σ : Type} (shape : Shape σ (PutValue σ)) (total : Nat) :
    List (Field (PutValue σ)) → (index : Nat) → List Json → σ → Except Mismatch σ
  | [], _, [], s => .ok s
  | [], _, _ :: _, _ => .error (.wrongLength total "fewer elements in array")
  | f :: fs, index, [], s =>
    if f.absent == .allowed then fromItems shape total fs (index + 1) [] s
    else .error (.wrongLength index shape.wantedWhole)
  | f :: fs, index, v :: vs, s => do
    fromItems shape total fs (index + 1) vs (← f.put v s)

/-- A record. -/
def asRecord {σ : Type} (shape : Shape σ (PutValue σ)) : Decoder σ
  | .obj fields => fromFields shape fields
  | .arr items => fromItems shape items.length shape.fields 0 items shape.start
  | v => .error (.wrongType (.ofValue v) shape.wanted)

end Rehearsal.Json
