import Rehearsal.Json.Reader

/-!
# Layouts of JSON text

The two layouts in which values are written differ only in the space between the parts of
a text. `Layout` is what they have in common: space before each item and field, before a
closing bracket, and behind a colon. What is said of the texts of every layout holds of
compact and of pretty text.
-/

namespace Rehearsal.Json

open Text

/-- The space between the parts of a text: before an item or a field of a level, which is
also the space before the bracket that closes the level above it, and behind a colon. -/
structure Layout where
  lead : (level : Nat) → List Char
  behindColon : List Char
  lead_space : ∀ level, ∀ c ∈ lead level, isSpace c = true
  colon_space : ∀ c ∈ behindColon, isSpace c = true

namespace Layout

/-- No space at all. -/
def compact : Layout := ⟨fun _ => [], [], nofun, nofun⟩

theorem isSpace_of_mem_newLine {level : Nat} {c : Char} (mem : c ∈ newLine level) :
    isSpace c = true := by
  obtain rfl | mem := List.mem_cons.mp mem
  · rfl
  · obtain ⟨-, rfl⟩ := List.mem_replicate.mp mem
    rfl

/-- A line for each item and field. -/
def pretty : Layout where
  lead := newLine
  behindColon := [' ']
  lead_space _ _ := isSpace_of_mem_newLine
  colon_space := by simp [isSpace]

/-- A key with the text of its value. -/
def fieldText (l : Layout) (field : String × List Char) : List Char :=
  quote field.1 ++ ':' :: (l.behindColon ++ field.2)

/-- Texts with commas between them, in brackets. -/
def enclose (l : Layout) (level : Nat) (first last : Char) : List (List Char) → List Char
  | [] => [first, last]
  | text :: texts =>
    first :: joinWith [','] ((text :: texts).map (l.lead (level + 1) ++ ·)) ++
      (l.lead level ++ [last])

mutual

/-- The text of a value at a level. -/
def write (l : Layout) (level : Nat) : Json → List Char
  | .null => Json.compact .null
  | .bool b => Json.compact (.bool b)
  | .int n => Json.compact (.int n)
  | .float x => Json.compact (.float x)
  | .str s => Json.compact (.str s)
  | .arr items => l.enclose level '[' ']' (writeItems l (level + 1) items)
  | .obj fields => l.enclose level '\x7b' '\x7d' (writeFields l (level + 1) fields)

def writeItems (l : Layout) (level : Nat) : List Json → List (List Char)
  | [] => []
  | item :: rest => write l level item :: writeItems l level rest

def writeFields (l : Layout) (level : Nat) : List (String × Json) → List (List Char)
  | [] => []
  | (key, value) :: rest =>
    l.fieldText (key, write l level value) :: writeFields l level rest

end

variable (l : Layout) (level : Nat)

theorem writeItems_eq_map (items : List Json) :
    l.writeItems level items = items.map (l.write level) := by
  induction items with
  | nil => rfl
  | cons item rest ih => rw [writeItems, ih, List.map_cons]

/-- The texts of values under their keys. -/
def valueTexts (fields : List (String × Json)) : List (String × List Char) :=
  fields.map fun field => (field.1, l.write level field.2)

theorem writeFields_eq_map (fields : List (String × Json)) :
    l.writeFields level fields = (l.valueTexts level fields).map l.fieldText := by
  induction fields with
  | nil => rfl
  | cons field rest ih =>
    rw [writeFields, ih]
    rfl

mutual

/-- Without space the text is the compact one. -/
theorem write_compact (level : Nat) : ∀ v : Json, compact.write level v = v.compact
  | .null => rfl
  | .bool _ => rfl
  | .int _ => rfl
  | .float _ => rfl
  | .str _ => rfl
  | .arr [] => rfl
  | .arr (item :: rest) => by
    rw [Json.compact, ← joinWith_writeItems_compact (level + 1)]
    simp [write, writeItems, enclose, compact]
  | .obj [] => rfl
  | .obj (field :: rest) => by
    rw [Json.compact, ← joinWith_writeFields_compact (level + 1)]
    simp [write, writeFields, enclose, compact]

theorem joinWith_writeItems_compact (level : Nat) :
    ∀ items, joinWith [','] (compact.writeItems level items) = compactItems items
  | [] => rfl
  | [item] => write_compact level item
  | item :: next :: rest => by
    have behind := joinWith_writeItems_compact level (next :: rest)
    rw [compactItems, ← behind, ← write_compact level item]
    simp [writeItems, joinWith]

theorem joinWith_writeFields_compact (level : Nat) :
    ∀ fields, joinWith [','] (compact.writeFields level fields) = compactFields fields
  | [] => rfl
  | [(key, value)] => by
    rw [compactFields, ← write_compact level value]
    rfl
  | (key, value) :: next :: rest => by
    have behind := joinWith_writeFields_compact level (next :: rest)
    rw [compactFields, ← behind, ← write_compact level value]
    simp [writeFields, fieldText, joinWith, compact]

end

mutual

/-- With lines between the parts the text is the pretty one. -/
theorem write_pretty (level : Nat) : ∀ v : Json, pretty.write level v = v.pretty level
  | .null => rfl
  | .bool _ => rfl
  | .int _ => rfl
  | .float _ => rfl
  | .str _ => rfl
  | .arr [] => rfl
  | .arr (item :: rest) => by
    rw [Json.pretty, ← joinWith_writeItems_pretty (level + 1)]
    simp [write, writeItems, enclose, pretty]
  | .obj [] => rfl
  | .obj (field :: rest) => by
    rw [Json.pretty, ← joinWith_writeFields_pretty (level + 1)]
    simp [write, writeFields, enclose, pretty]

theorem joinWith_writeItems_pretty (level : Nat) : ∀ items,
    joinWith [','] ((pretty.writeItems level items).map (newLine level ++ ·)) =
      prettyItems level items
  | [] => rfl
  | [item] => by
    rw [prettyItems, ← write_pretty level item]
    rfl
  | item :: next :: rest => by
    have behind := joinWith_writeItems_pretty level (next :: rest)
    rw [prettyItems, ← behind, ← write_pretty level item]
    simp [writeItems, joinWith]

theorem joinWith_writeFields_pretty (level : Nat) : ∀ fields,
    joinWith [','] ((pretty.writeFields level fields).map (newLine level ++ ·)) =
      prettyFields level fields
  | [] => rfl
  | [(key, value)] => by
    rw [prettyFields, ← write_pretty level value]
    simp [writeFields, fieldText, joinWith, pretty]
  | (key, value) :: next :: rest => by
    have behind := joinWith_writeFields_pretty level (next :: rest)
    rw [prettyFields, ← behind, ← write_pretty level value]
    simp [writeFields, fieldText, joinWith, pretty]

end

end Layout
end Rehearsal.Json
