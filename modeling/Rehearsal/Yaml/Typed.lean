import Rehearsal.Record
import Rehearsal.Yaml.Document

/-!
# Reading YAML nodes as a known shape

Readers for nodes of which the shape is known beforehand. What a plain scalar
stands for is decided by what is asked for: the scalar `5` is a text where a text
is wanted and a number where a number is wanted. Scalars with quotes are texts
only.
-/

namespace Rehearsal.Yaml

open Text

/-- A reader of nodes of a document. -/
abbrev Reader (α : Type) := Document → Node → Except String α

/-- The node itself, or the one that it stands for. -/
def Document.target (d : Document) : Node → Node
  | .alias number => (d.named.lookup number).getD .nothing
  | n => n

/-- A tag of the YAML standard. -/
def standardTag (name : String) : Bytes := Utf8.encode s!"tag:yaml.org,2002:{name}".toList

/-- A scalar, and whether it may stand for something of a kind: it may if it is plain, or
literal with the tag of the kind. -/
def scalarFor (tagName : String) : Reader (List Char) := fun d n =>
  match d.target n with
  | .scalar tag written text =>
    if written = .plain || (written = .literal && tag = some (standardTag tagName)) then
      .ok text.toList
    else .error "invalid type: string"
  | .sequence _ => .error "invalid type: sequence"
  | .mapping _ => .error "invalid type: map"
  | .alias _ => .error "invalid type: alias"

/-- The text of any scalar. -/
def text : Reader String := fun d n =>
  match d.target n with
  | .scalar _ _ text => .ok text
  | _ => .error "invalid type, expected a string"

/-- A truth value. -/
def flag : Reader Bool := fun d n => do
  match bool? (← scalarFor "bool" d n) with
  | some b => return b
  | none => throw "invalid type, expected a boolean"

/-- A whole number below `2 ^ bits`. -/
def unsigned (bits : Nat) : Reader Nat := fun d n => do
  match unsigned? (← scalarFor "int" d n) with
  | some n => if n < 1 <<< bits then return n else throw "number out of range"
  | none => throw "invalid type, expected a whole number"

/-- A text, or nothing: a plain scalar that says so, or one that is not there. -/
def textUnlessNull : Reader (Option String) := fun d n =>
  match d.target n with
  | .scalar none .plain text =>
    if text.isEmpty || isNull text.toList then .ok none else .ok (some text)
  | .scalar (some tag) .plain text =>
    if tag = standardTag "null" then
      if isNull text.toList then .ok none else .error "invalid value, expected null"
    else .ok (some text)
  | n => do return some (← Yaml.text d n)

/-- Reads a field into what has been read before. -/
abbrev Put (σ : Type) := σ → Reader σ

/-- A field read by `reader` and stored by `store`, which may be left out. -/
def field {σ α : Type} (name : String) (reader : Reader α) (store : σ → α → σ) :
    Field (Put σ) :=
  ⟨name, .allowed, fun s d n => do return store s (← reader d n)⟩

/-- The fields of a record. `seen` has the names of those that have been read. Fields that the
record does not have are passed over. -/
def recordFields {σ : Type} (shape : Shape σ (Put σ)) (d : Document) :
    (seen : List String) → σ → List (Node × Node) → Except String σ
  | _, s, [] => .ok s
  | seen, s, (key, value) :: rest => do
    let name ← text d key
    match shape.field? name with
    | none => recordFields shape d seen s rest
    | some f =>
      if seen.contains name then throw s!"duplicate field {name}"
      else recordFields shape d (name :: seen) (← f.put s d value) rest

/-- A record: a mapping, or nothing at all. -/
def record {σ : Type} (shape : Shape σ (Put σ)) : Reader σ := fun d n =>
  match d.target n with
  | .mapping fields => recordFields shape d [] shape.start fields
  | .scalar _ .plain "" => .ok shape.start
  | _ => .error s!"invalid type, expected {shape.wanted}"

/-- The record that a text describes. -/
def parseRecord {σ : Type} (shape : Shape σ (Put σ)) (s : List Char) : Except String σ := do
  let d ← Document.parse s
  match d.root with
  | some root => record shape d root
  | none => return shape.start

end Rehearsal.Yaml
