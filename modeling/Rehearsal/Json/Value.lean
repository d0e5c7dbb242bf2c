import Rehearsal.Number.Shortest
import Rehearsal.Table
import Rehearsal.Text.Order

/-!
# JSON values

Whole numbers and fractions are different values. The fields of an object are
kept in the order of their keys, one field for each key, so that two objects
are equal when they have the same fields.
-/

namespace Rehearsal

/-- A JSON value. The fields of `obj` are meant to have increasing keys, which
`Json.object` and `Json.insertField` see to. -/
inductive Json where
  | null
  | bool (b : Bool)
  | int (n : Int)
  | float (x : Binary64)
  | str (s : String)
  | arr (items : List Json)
  | obj (fields : List (String × Json))

namespace Json

instance : Inhabited Json := ⟨.null⟩

/-- Puts a field in its place among fields with increasing keys. A field with the
same key is replaced. -/
def insertField {α : Type} (key : String) (value : α) : List (String × α) → List (String × α)
  | [] => [(key, value)]
  | (k, v) :: rest =>
    match Text.order key.toList k.toList with
    | .lt => (key, value) :: (k, v) :: rest
    | .eq => (key, value) :: rest
    | .gt => (k, v) :: insertField key value rest

/-- The object with the given fields. Of fields with one key the last one counts. -/
def object (fields : List (String × Json)) : Json :=
  .obj (fields.foldl (fun sorted field => insertField field.1 field.2 sorted) [])

/-- An object of two fields that come in the order of their keys. -/
theorem object_of_gt {k l : String} (order : Text.order l.toList k.toList = .gt) (a b : Json) :
    object [(k, a), (l, b)] = .obj [(k, a), (l, b)] := by
  simp [object, insertField, order]

/-- An object of two fields that come the other way round. -/
theorem object_of_lt {k l : String} (order : Text.order l.toList k.toList = .lt) (a b : Json) :
    object [(k, a), (l, b)] = .obj [(l, b), (k, a)] := by
  simp [object, insertField, order]

/-- The value of a field, of an object that has it. -/
def field? (key : String) : Json → Option Json
  | .obj fields => Table.get? key fields
  | _ => none

mutual

/-- Equality of values. Whole numbers and fractions differ, the two zeros do not. -/
def same : Json → Json → Bool
  | .null, .null => true
  | .bool a, .bool b => a == b
  | .int m, .int n => m == n
  | .float x, .float y => x.same y
  | .str s, .str t => s == t
  | .arr xs, .arr ys => sameItems xs ys
  | .obj xs, .obj ys => sameFields xs ys
  | _, _ => false

def sameItems : List Json → List Json → Bool
  | [], [] => true
  | x :: xs, y :: ys => same x y && sameItems xs ys
  | _, _ => false

def sameFields : List (String × Json) → List (String × Json) → Bool
  | [], [] => true
  | (k, x) :: xs, (l, y) :: ys => k == l && same x y && sameFields xs ys
  | _, _ => false

end

end Json
end Rehearsal
