import Rehearsal.Text.Hex
import Rehearsal.Text.Split

/-!
# Tables of code points

What a standard says of single code points, in a table whose rows are in order
and speak of a range each. A table is written as a text: rows between commas, and
in a row a code point or a range, perhaps of every second one only, and then the
values, all of them hexadecimal and between spaces.
-/

namespace Rehearsal.Text

/-- A row: the code points from `first` to `last` in steps, and what they have. -/
structure CodeRow where
  first : Nat
  last : Nat
  step : Nat
  values : List Nat

namespace CodeRow

def has (r : CodeRow) (n : Nat) : Bool :=
  r.first ≤ n && n ≤ r.last && (n - r.first) % r.step == 0

/-- What a code point stands for. The only value of a row is that of its first code point, and
the others follow it. -/
def image (r : CodeRow) (n : Nat) : List Nat :=
  match r.values with
  | [v] => [v + (n - r.first)]
  | values => values

/-- The number that hexadecimal digits stand for. -/
def number (s : List Char) : Nat := (s.filterMap hexValue?).foldl (fun n d => n * 16 + d) 0

/-- The row of words: `first`, `first-last` or `first-last/step`, and the values. -/
def ofWords? : List (List Char) → Option CodeRow
  | [] => none
  | range :: values =>
    let parts := splitAt (fun c => c == '/') range
    let bounds := (splitAt (fun c => c == '-') (parts.headD [])).map number
    let step := (parts.drop 1).head?.elim 1 number
    some ⟨bounds.headD 0, bounds.getLastD 0, step, values.map number⟩

end CodeRow

/-- Rows in the order of their code points. -/
structure CodeTable where
  rows : Array CodeRow

namespace CodeTable

/-- The table of a text. Line ends count as spaces. -/
def ofText (s : String) : CodeTable :=
  let rows := splitAt (fun c => c == ',') s.toList
  ⟨(rows.filterMap fun row => CodeRow.ofWords? (words (fun c => c == ' ' || c == '\n') row)).toArray⟩

/-- Two tables, all of the first before all of the second. -/
def append (s t : CodeTable) : CodeTable := ⟨s.rows ++ t.rows⟩

/-- The row of a code point among those from `low` to before `high`. -/
def search? (t : CodeTable) (n low high : Nat) : Option CodeRow :=
  if low < high then
    let middle := (low + high) / 2
    match t.rows[middle]? with
    | none => none
    | some r =>
      if n < r.first then t.search? n low middle
      else if r.last < n then t.search? n (middle + 1) high
      else if r.has n then some r
      else none
  else none
termination_by high - low

/-- The row of a code point. -/
def find? (t : CodeTable) (n : Nat) : Option CodeRow := t.search? n 0 t.rows.size

/-- Whether a code point has a row. -/
def has (t : CodeTable) (n : Nat) : Bool := (t.find? n).isSome

end CodeTable
end Rehearsal.Text
