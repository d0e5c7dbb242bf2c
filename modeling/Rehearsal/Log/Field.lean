import Rehearsal.Number.Numeral
import Rehearsal.Number.Shortest
import Rehearsal.Pattern.Reader
import Rehearsal.Text.Order
import Rehearsal.Text.Split

/-!
# Fields in log filters

A filter may ask that a span has a field, and that the field has a value: a truth value, a
number, or a text of which the whole matches a pattern. What is no value of the other kinds
is a pattern.
-/

namespace Rehearsal

open Text

/-- What the value of a field has to be. -/
inductive LogValue where
  | bool (b : Bool)
  | float (x : Binary64)
  | nan
  /-- A number of 64 bits without a sign. -/
  | natural (n : Nat)
  /-- A number of 64 bits with a sign. -/
  | integer (i : Int)
  | pattern (s : List Char)

namespace LogValue

def bool? (s : List Char) : Option LogValue :=
  if s == "true".toList then some (.bool true)
  else if s == "false".toList then some (.bool false)
  else none

/-- A whole number: one with a minus sign is an integer. -/
def whole? (s : List Char) : Option LogValue := do
  let (sign, digits) := Numeral.splitSign s
  let n ← Numeral.value? digits
  if sign == some '-' then if n ≤ 1 <<< 63 then some (.integer (-n)) else none
  else if n < 1 <<< 64 then some (.natural n)
  else none

/-- A number of floating point: infinity and what is no number have names. -/
def float? (s : List Char) : Option LogValue := do
  let (sign, size) := Numeral.splitSign s
  let signed (x : Binary64) : LogValue := .float (if sign == some '-' then x.neg else x)
  let name := String.ofList (size.map Char.toLower)
  if name == "nan" then some .nan
  else if name == "inf" || name == "infinity" then signed ⟨false, Binary64.infinitePlace⟩
  else return signed (← Numeral.ofText? size).nearest

/-- The value of a text: it is of the first kind that fits. -/
def ofText? (s : List Char) : Option LogValue :=
  match bool? s <|> whole? s <|> float? s with
  | some value => some value
  | none => if Pattern.isPattern s then some (.pattern s) else none

def text : LogValue → List Char
  | .bool b => (if b then "true" else "false").toList
  | .float x => x.plainText
  | .nan => "NaN".toList
  | .natural n => (toString n).toList
  | .integer i => (toString i).toList
  | .pattern s => s

/-- The kinds of values in order. -/
def rank : LogValue → Nat
  | .bool _ => 0
  | .float _ => 1
  | .nan => 2
  | .natural _ => 3
  | .integer _ => 4
  | .pattern _ => 5

/-- The order of two values: by their kinds, and within a kind by size. -/
def order : LogValue → LogValue → Ordering
  | .bool a, .bool b => compare a.toNat b.toNat
  | .float x, .float y => compare x.position y.position
  | .natural n, .natural m => compare n m
  | .integer i, .integer j => compare i j
  | .pattern s, .pattern t => Text.order s t
  | a, b => compare a.rank b.rank

end LogValue

/-- A field that a span has to have, with a value if that is given. -/
structure LogField where
  name : List Char
  value : Option LogValue

namespace LogField

/-- The field of a text: its name, and behind a sign of equality its value. What is behind
a second such sign does not count. -/
def ofText? (s : List Char) : Option LogField :=
  if s.isEmpty then none
  else
    match splitAt (· == '=') s with
    | name :: value :: _ => do return ⟨name, some (← LogValue.ofText? value)⟩
    | _ => some ⟨s, none⟩

def text (f : LogField) : List Char :=
  match f.value with
  | none => f.name
  | some value => f.name ++ '=' :: value.text

/-- The order of two fields: those without a value come first, then it goes by name and by
value. -/
def order (a b : LogField) : Ordering :=
  match a.value, b.value with
  | none, none => Text.order a.name b.name
  | none, some _ => .lt
  | some _, none => .gt
  | some v, some w => (Text.order a.name b.name).then (v.order w)

end LogField
end Rehearsal
