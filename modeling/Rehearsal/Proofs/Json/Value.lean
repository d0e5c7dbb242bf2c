import Mathlib.Data.List.Forall2
import Rehearsal.Proofs.Json.Decode
import Rehearsal.Proofs.Json.Layout
import Rehearsal.Proofs.Json.Text

/-!
# Values are read back

Lists and objects are read if their parts are, in every layout. So a value of whole numbers,
with its keys in order, is read back from each of its texts, if no more lists and objects are
open at once than the reader allows.
-/

namespace Rehearsal.Json

open Text

namespace Layout

variable (l : Layout) (level : Nat) (first last : Char)

/-- The text of a list or an object behind its first part. -/
def behind : List (List Char) → List Char
  | [] => l.lead level ++ [last]
  | text :: texts => ',' :: (l.lead (level + 1) ++ (text ++ behind texts))

/-- The text of a list or an object behind its bracket. -/
def inside : List (List Char) → List Char
  | [] => [last]
  | text :: texts => l.lead (level + 1) ++ (text ++ l.behind level last texts)

theorem joinWith_append (text : List Char) (texts : List (List Char)) :
    joinWith [','] ((text :: texts).map (l.lead (level + 1) ++ ·)) ++ (l.lead level ++ [last]) =
      l.lead (level + 1) ++ (text ++ l.behind level last texts) := by
  induction texts generalizing text with
  | nil => simp [joinWith, behind]
  | cons next texts ih =>
    rw [behind, ← ih next]
    simp [joinWith]

theorem enclose_eq (texts : List (List Char)) :
    l.enclose level first last texts = first :: l.inside level last texts := by
  cases texts with
  | nil => rfl
  | cons text texts => rw [enclose, List.cons_append, joinWith_append, inside]

theorem skipSpace_enclose {first : Char} {space : List Char}
    (blank : ∀ c ∈ space, isSpace c = true) (some : isSpace first = false)
    (texts : List (List Char)) (rest : List Char) :
    skipSpace (space ++ (l.enclose level first last texts ++ rest)) =
      first :: (l.inside level last texts ++ rest) := by
  rw [enclose_eq, List.cons_append, skipSpace_append blank some]

theorem length_lt_length_behind (texts : List (List Char)) :
    texts.length < (l.behind level last texts).length := by
  induction texts with
  | nil => simp [behind]
  | cons text texts ih =>
    simp only [behind, List.length_cons, List.length_append]
    omega

theorem length_lt_length_inside (texts : List (List Char)) (rest : List Char) :
    texts.length < (l.inside level last texts ++ rest).length + 1 := by
  cases texts with
  | nil => simp
  | cons text texts =>
    have longer := l.length_lt_length_behind level last texts
    simp only [inside, List.length_cons, List.length_append]
    omega

variable {last}

theorem ends_behind (closes : last = ']' ∨ last = '\x7d') (texts : List (List Char))
    (rest : List Char) : Ends (l.behind level last texts ++ rest) := by
  intro c more split
  cases texts with
  | cons text texts =>
    obtain ⟨rfl, -⟩ := List.cons.inj split
    exact .inr (.inl rfl)
  | nil =>
    rw [behind] at split
    cases lead : l.lead level with
    | nil =>
      rw [lead] at split
      obtain ⟨rfl, -⟩ := List.cons.inj split
      exact .inr (.inr closes)
    | cons d space =>
      rw [lead] at split
      obtain ⟨rfl, -⟩ := List.cons.inj split
      exact .inl (l.lead_space level d (by simp [lead]))

end Layout

section Lists

variable {α : Type} {reader item : Reader α} {l : Layout} {level : Nat} {text space : List Char}
variable {x : α} {xs : List α} {texts : List (List Char)}

/-- What is read can stand behind any space. -/
theorem Reads.skipSpace_eq (h : Reads reader text x) (blank : ∀ c ∈ space, isSpace c = true)
    (rest : List Char) : skipSpace (space ++ (text ++ rest)) = text ++ rest := by
  obtain ⟨c, more, rfl, some, -⟩ := h.starts
  exact skipSpace_append blank some (more ++ rest)

theorem nextItem_first (h : Reads item text x) (blank : ∀ c ∈ space, isSpace c = true)
    (rest : List Char) : nextItem true (space ++ (text ++ rest)) = .ok (.more (text ++ rest)) := by
  rw [nextItem, h.skipSpace_eq blank]
  obtain ⟨c, more, rfl, -, open_⟩ := h.starts
  rw [List.cons_append]
  split
  · contradiction
  next split => exact absurd (List.cons.inj split).1 open_
  next split =>
    obtain ⟨rfl, rfl⟩ := List.cons.inj split
    rfl

theorem nextItem_comma (h : Reads item text x) (blank : ∀ c ∈ space, isSpace c = true)
    (rest : List Char) :
    nextItem false (',' :: (space ++ (text ++ rest))) = .ok (.more (text ++ rest)) := by
  rw [nextItem, skipSpace_cons rfl]
  split
  · contradiction
  next split => exact absurd (List.cons.inj split).1 (by decide)
  next split =>
    obtain ⟨rfl, rfl⟩ := List.cons.inj split
    rw [if_neg Bool.false_ne_true, if_pos rfl, h.skipSpace_eq blank]
    obtain ⟨c, more, rfl, -, open_⟩ := h.starts
    rw [List.cons_append]
    split
    · contradiction
    next split => exact absurd (List.cons.inj split).1 open_
    · rfl

theorem nextItem_end (blank : ∀ c ∈ space, isSpace c = true) (first : Bool) (rest : List Char) :
    nextItem first (space ++ ']' :: rest) = .ok (.finished rest) := by
  rw [nextItem, skipSpace_append blank rfl]
  rfl

/-- One more item is read. -/
theorem items_more {fuel : Nat} {first : Bool} {cs more rest : List Char}
    (next : nextItem first cs = .ok (.more more)) (read : item more = .ok (x, rest)) :
    items item (fuel + 1) first cs =
      (items item fuel false rest).map fun read => (x :: read.1, read.2) := by
  rw [items, next, ok_bind]
  dsimp only
  rw [read, ok_bind]
  dsimp only
  cases items item fuel false rest <;> rfl

/-- Items behind the first one are read up to the end of the list. -/
theorem items_behind (h : List.Forall₂ (Reads item) texts xs) {fuel : Nat}
    (enough : texts.length < fuel) (rest : List Char) :
    items item fuel false (l.behind level ']' texts ++ rest) = .ok (xs, rest) := by
  induction h generalizing fuel with
  | nil =>
    obtain ⟨fuel, rfl⟩ := Nat.exists_eq_add_of_lt enough
    rw [Layout.behind, List.append_assoc, items, List.singleton_append,
      nextItem_end (l.lead_space level)]
    rfl
  | @cons text x texts xs first _ ih =>
    obtain ⟨fuel, rfl⟩ := Nat.exists_eq_add_of_lt enough
    have next := nextItem_comma first (l.lead_space (level + 1)) (l.behind level ']' texts ++ rest)
    have ends := l.ends_behind level (.inl rfl) texts rest
    have read := first.reads [] _ (List.forall_mem_nil _) ends
    rw [Layout.behind, List.cons_append, List.append_assoc, List.append_assoc,
      items_more next read, ih (by rw [List.length_cons]; omega)]
    rfl

/-- The items of a list are read up to its end. -/
theorem items_inside (h : List.Forall₂ (Reads item) texts xs) {fuel : Nat}
    (enough : texts.length < fuel) (rest : List Char) :
    items item fuel true (l.inside level ']' texts ++ rest) = .ok (xs, rest) := by
  cases h with
  | nil =>
    obtain ⟨fuel, rfl⟩ := Nat.exists_eq_add_of_lt enough
    have close : nextItem true (']' :: rest) = .ok (.finished rest) :=
      nextItem_end (List.forall_mem_nil _) true rest
    rw [Layout.inside, items, List.singleton_append, close]
    rfl
  | @cons text x texts xs first others =>
    obtain ⟨fuel, rfl⟩ := Nat.exists_eq_add_of_lt enough
    have next := nextItem_first first (l.lead_space (level + 1)) (l.behind level ']' texts ++ rest)
    have ends := l.ends_behind level (.inl rfl) texts rest
    have read := first.reads [] _ (List.forall_mem_nil _) ends
    rw [Layout.inside, List.append_assoc, List.append_assoc, items_more next read,
      items_behind others (by rw [List.length_cons]; omega)]
    rfl

theorem Layout.starts_arr (l : Layout) (level : Nat) (vs : List Json) :
    ∃ c more, l.write level (.arr vs) = c :: more ∧ isSpace c = false ∧ c ≠ ']' :=
  ⟨'[', _, l.enclose_eq level '[' ']' _, rfl, by decide⟩

/-- Behind the bracket of a list its items are read. -/
theorem exists_items {vs : List Json} (blank : ∀ c ∈ space, isSpace c = true)
    (h : List.Forall₂ (Reads item) (vs.map (l.write (level + 1))) xs) (rest : List Char) :
    ∃ more, skipSpace (space ++ (l.write level (.arr vs) ++ rest)) = '[' :: more ∧
      items item (more.length + 1) true more = .ok (xs, rest) := by
  rw [Layout.write, l.writeItems_eq_map]
  exact ⟨_, l.skipSpace_enclose level ']' blank rfl _ rest,
    items_inside h (l.length_lt_length_inside level ']' _ rest) rest⟩

end Lists

section Objects

variable {σ : Type} {member : σ → String → Reader σ} {l : Layout} {level : Nat}
variable {s t u : σ} {key : String} {text space : List Char} {fields : List (String × List Char)}

theorem nextKey_first (blank : ∀ c ∈ space, isSpace c = true) (rest : List Char) :
    nextKey true (space ++ '"' :: rest) = .ok (.more rest) := by
  rw [nextKey, skipSpace_append blank rfl]
  rfl

theorem nextKey_comma (blank : ∀ c ∈ space, isSpace c = true) (rest : List Char) :
    nextKey false (',' :: (space ++ '"' :: rest)) = .ok (.more rest) := by
  rw [nextKey, skipSpace_cons rfl]
  split
  · contradiction
  next split => exact absurd (List.cons.inj split).1 (by decide)
  next split =>
    obtain ⟨rfl, rfl⟩ := List.cons.inj split
    rw [if_neg Bool.false_ne_true, if_pos rfl, skipSpace_append blank rfl]
    rfl

theorem nextKey_end (blank : ∀ c ∈ space, isSpace c = true) (first : Bool) (rest : List Char) :
    nextKey first (space ++ '\x7d' :: rest) = .ok (.finished rest) := by
  rw [nextKey, skipSpace_append blank rfl]
  rfl

theorem Layout.fieldText_append (l : Layout) (key : String) (text rest : List Char) :
    l.fieldText (key, text) ++ rest = '"' :: (key.toList.flatMap escapeChar ++
      '"' :: (':' :: (l.behindColon ++ (text ++ rest)))) := by
  simp [fieldText, quote]

/-- The texts of values under keys are gathered one after another, from a beginning to an
end. -/
inductive Gathers (member : σ → String → Reader σ) (l : Layout) :
    σ → List (String × List Char) → σ → Prop
  | nil {s : σ} : Gathers member l s [] s
  | cons {s t u : σ} {key : String} {text : List Char} {fields : List (String × List Char)}
      (first : ∀ rest, Ends rest →
        member s key (':' :: (l.behindColon ++ (text ++ rest))) = .ok (t, rest))
      (others : Gathers member l t fields u) : Gathers member l s ((key, text) :: fields) u

/-- One more member is read. -/
theorem members_more {fuel : Nat} {first : Bool} {cs more rest : List Char}
    (next : nextKey first cs =
      .ok (.more (key.toList.flatMap escapeChar ++ '"' :: more)))
    (read : member s key more = .ok (t, rest)) :
    members member (fuel + 1) first s cs = members member fuel false t rest := by
  rw [members, next, ok_bind]
  dsimp only
  rw [string_quoted, ok_bind]
  dsimp only
  rw [read, ok_bind]

/-- Members behind the first one are read up to the end of the object. -/
theorem members_behind (h : Gathers member l s fields t) {fuel : Nat}
    (enough : fields.length < fuel) (rest : List Char) :
    members member fuel false s (l.behind level '\x7d' (fields.map l.fieldText) ++ rest) =
      .ok (t, rest) := by
  induction h generalizing fuel with
  | nil =>
    obtain ⟨fuel, rfl⟩ := Nat.exists_eq_add_of_lt enough
    rw [List.map_nil, Layout.behind, List.append_assoc, members, List.singleton_append,
      nextKey_end (l.lead_space level)]
    rfl
  | @cons s t u key text fields first _ ih =>
    obtain ⟨fuel, rfl⟩ := Nat.exists_eq_add_of_lt enough
    have read := first _ (l.ends_behind level (.inr rfl) (fields.map l.fieldText) rest)
    rw [List.map_cons, Layout.behind, List.cons_append, List.append_assoc, List.append_assoc,
      Layout.fieldText_append, members_more (nextKey_comma (l.lead_space _) _) read]
    exact ih (by rw [List.length_cons]; omega)

/-- The members of an object are read up to its end. -/
theorem members_inside (h : Gathers member l s fields t) {fuel : Nat}
    (enough : fields.length < fuel) (rest : List Char) :
    members member fuel true s (l.inside level '\x7d' (fields.map l.fieldText) ++ rest) =
      .ok (t, rest) := by
  cases h with
  | nil =>
    obtain ⟨fuel, rfl⟩ := Nat.exists_eq_add_of_lt enough
    have close : nextKey true ('\x7d' :: rest) = .ok (.finished rest) :=
      nextKey_end (List.forall_mem_nil _) true rest
    rw [List.map_nil, Layout.inside, members, List.singleton_append, close]
    rfl
  | @cons _ t _ key text fields first others =>
    obtain ⟨fuel, rfl⟩ := Nat.exists_eq_add_of_lt enough
    have read := first _ (l.ends_behind level (.inr rfl) (fields.map l.fieldText) rest)
    rw [List.map_cons, Layout.inside, List.append_assoc, List.append_assoc,
      Layout.fieldText_append, members_more (nextKey_first (l.lead_space _) _) read]
    exact members_behind others (by rw [List.length_cons]; omega) rest

theorem Layout.starts_obj (l : Layout) (level : Nat) (fields : List (String × Json)) :
    ∃ c more, l.write level (.obj fields) = c :: more ∧ isSpace c = false ∧ c ≠ ']' :=
  ⟨'\x7b', _, l.enclose_eq level '\x7b' '\x7d' _, rfl, by decide⟩

/-- Behind the bracket of an object its members are read. -/
theorem exists_members {fields : List (String × Json)} (blank : ∀ c ∈ space, isSpace c = true)
    (h : Gathers member l s (l.valueTexts (level + 1) fields) t) (rest : List Char) :
    ∃ more, skipSpace (space ++ (l.write level (.obj fields) ++ rest)) = '\x7b' :: more ∧
      members member (more.length + 1) true s more = .ok (t, rest) := by
  have enough := l.length_lt_length_inside level '\x7d'
    ((l.valueTexts (level + 1) fields).map l.fieldText) rest
  rw [List.length_map] at enough
  rw [Layout.write, l.writeFields_eq_map]
  exact ⟨_, l.skipSpace_enclose level '\x7d' blank rfl _ rest, members_inside h enough rest⟩

end Objects

/-- The order of keys in an object. -/
def keyBefore (a b : String × Json) : Prop := order a.1.toList b.1.toList = .lt

instance : DecidableRel keyBefore := fun _ _ => inferInstanceAs (Decidable (_ = _))

/-- Values of whole numbers that fit into 64 bits, with one field for each key of an object,
in the order of the keys. -/
inductive Whole : Json → Prop
  | null : Whole .null
  | bool (b : Bool) : Whole (.bool b)
  | int {n : Int} (low : -2 ^ 63 ≤ n) (high : n < 2 ^ 64) : Whole (.int n)
  | str (s : String) : Whole (.str s)
  | arr {items : List Json} (whole : ∀ v ∈ items, Whole v) : Whole (.arr items)
  | obj {fields : List (String × Json)} (sorted : fields.Pairwise keyBefore)
      (whole : ∀ field ∈ fields, Whole field.2) : Whole (.obj fields)

mutual

/-- How many lists and objects are open at once in the text of a value. -/
def depth : Json → Nat
  | .arr items => depthOfItems items + 1
  | .obj fields => depthOfFields fields + 1
  | _ => 0

def depthOfItems : List Json → Nat
  | [] => 0
  | item :: rest => max (depth item) (depthOfItems rest)

def depthOfFields : List (String × Json) → Nat
  | [] => 0
  | (_, value) :: rest => max (depth value) (depthOfFields rest)

end

theorem depth_le_depthOfItems {items : List Json} {v : Json} (mem : v ∈ items) :
    v.depth ≤ depthOfItems items := by
  induction items with
  | nil => nomatch mem
  | cons item rest ih =>
    rw [depthOfItems]
    obtain rfl | mem := List.mem_cons.mp mem
    · exact Nat.le_max_left _ _
    · exact Nat.le_trans (ih mem) (Nat.le_max_right _ _)

theorem depth_le_depthOfFields {fields : List (String × Json)} {field : String × Json}
    (mem : field ∈ fields) : field.2.depth ≤ depthOfFields fields := by
  induction fields with
  | nil => nomatch mem
  | cons first rest ih =>
    rw [depthOfFields]
    obtain rfl | mem := List.mem_cons.mp mem
    · exact Nat.le_max_left _ _
    · exact Nat.le_trans (ih mem) (Nat.le_max_right _ _)

section Values

variable {inner : Option (Reader Json)} {item : Reader Json} {l : Layout} {level : Nat}
variable {cs rest : List Char}

theorem valueWith_string (front : skipSpace cs = '"' :: rest) :
    valueWith inner cs = (string rest).map fun read => (.str read.1, read.2) := by
  rw [valueWith, front]
  change (string rest >>= fun read => pure (Json.str read.1, read.2)) = _
  cases string rest <;> rfl

theorem valueWith_list (front : skipSpace cs = '[' :: rest) :
    valueWith (some item) cs =
      (items item (rest.length + 1) true rest).map fun read => (.arr read.1, read.2) := by
  rw [valueWith, front]
  change (items item (rest.length + 1) true rest >>= fun read => pure (Json.arr read.1, read.2)) = _
  cases items item (rest.length + 1) true rest <;> rfl

/-- A field of an object is put in its place among those before it. -/
def placeField (item : Reader Json) (fields : List (String × Json)) (key : String) :
    Reader (List (String × Json)) := fun cs => do
  let (v, rest) ← item (← colon cs)
  return (insertField key v fields, rest)

theorem valueWith_object (front : skipSpace cs = '\x7b' :: rest) :
    valueWith (some item) cs = (members (placeField item) (rest.length + 1) true [] rest).map
      fun read => (.obj read.1, read.2) := by
  rw [valueWith, front]
  change (members (placeField item) (rest.length + 1) true [] rest >>=
    fun read => pure (Json.obj read.1, read.2)) = _
  cases members (placeField item) (rest.length + 1) true [] rest <;> rfl

/-- No number begins with space or with the bracket that ends a list. -/
theorem starts_of_number {c : Char} (first : c = '-' ∨ c.isDigit = true) :
    isSpace c = false ∧ c ≠ ']' := by
  have others : ∀ d ∈ [' ', '\n', '\t', '\r', ']'], d ≠ '-' ∧ d.isDigit = false := by simp
  have other : c ∉ [' ', '\n', '\t', '\r', ']'] := by
    intro mem
    obtain ⟨sign, digit⟩ := others c mem
    obtain rfl | number := first
    · exact sign rfl
    · rw [digit] at number
      nomatch number
  simp only [List.mem_cons, List.not_mem_nil, or_false, not_or] at other
  exact ⟨by simp [isSpace, other], other.2.2.2.2⟩

/-- A number is told by its first character. -/
theorem valueWith_number {c : Char} (first : c = '-' ∨ c.isDigit = true)
    (front : skipSpace cs = c :: rest) : valueWith inner cs = number c rest := by
  have other (d : Char) (none : d ≠ '-' ∧ d.isDigit = false) : c ≠ d := by
    rintro rfl
    obtain rfl | digit := first
    · exact none.1 rfl
    · exact absurd digit (by simp [none.2])
  have starts : (decide (c = '-') || c.isDigit) = true := by simpa using first
  rw [valueWith, front]
  split
  · contradiction
  next h => exact absurd (List.cons.inj h).1 (other _ (by decide))
  next h => exact absurd (List.cons.inj h).1 (other _ (by decide))
  next h => exact absurd (List.cons.inj h).1 (other _ (by decide))
  next h => exact absurd (List.cons.inj h).1 (other _ (by decide))
  next h => exact absurd (List.cons.inj h).1 (other _ (by decide))
  next h => exact absurd (List.cons.inj h).1 (other _ (by decide))
  next h =>
    obtain ⟨rfl, rfl⟩ := List.cons.inj h
    rw [if_pos starts]

theorem valueWith_append {c : Char} {space : List Char} (blank : ∀ c ∈ space, isSpace c = true)
    (some : isSpace c = false) (rest : List Char) :
    valueWith inner (space ++ c :: rest) = valueWith inner (c :: rest) := by
  rw [valueWith, skipSpace_append blank some, valueWith, skipSpace_cons some]

theorem reads_null : Reads (valueWith inner) (compact .null) .null where
  starts := ⟨'n', _, rfl, rfl, by decide⟩
  reads _ rest blank _ := valueWith_append blank rfl ('u' :: 'l' :: 'l' :: rest)

theorem reads_bool (b : Bool) : Reads (valueWith inner) (compact (.bool b)) (.bool b) := by
  cases b with
  | true =>
    refine ⟨⟨'t', _, rfl, rfl, by decide⟩, fun _ rest blank _ => ?_⟩
    exact valueWith_append blank rfl ('r' :: 'u' :: 'e' :: rest)
  | false =>
    refine ⟨⟨'f', _, rfl, rfl, by decide⟩, fun _ rest blank _ => ?_⟩
    exact valueWith_append blank rfl ('a' :: 'l' :: 's' :: 'e' :: rest)

theorem reads_string (s : String) : Reads (valueWith inner) (quote s) (.str s) where
  starts := ⟨'"', _, rfl, rfl, by decide⟩
  reads space rest blank _ := by
    rw [valueWith_string (skipSpace_quote blank s rest), string_quoted]
    rfl

theorem reads_int {n : Int} (low : -2 ^ 63 ≤ n) (high : n < 2 ^ 64) :
    Reads (valueWith inner) (intText n) (.int n) := by
  obtain ⟨c, more, text, first, read⟩ := number_intText low high
  have starts := starts_of_number first
  refine ⟨⟨c, more, text, starts⟩, fun space rest blank ends => ?_⟩
  rw [text, List.cons_append, valueWith_number first (skipSpace_append blank starts.1 _),
    read rest ends]

/-- A list of values is read if its items are. -/
theorem reads_arr {vs : List Json} (reads : ∀ v ∈ vs, Reads item (l.write (level + 1) v) v) :
    Reads (valueWith (some item)) (l.write level (.arr vs)) (.arr vs) := by
  have each : List.Forall₂ (Reads item) (vs.map (l.write (level + 1))) vs :=
    List.forall₂_map_left_iff.mpr (List.forall₂_same.mpr reads)
  refine ⟨l.starts_arr level vs, fun space rest blank _ => ?_⟩
  obtain ⟨more, front, read⟩ := exists_items blank each rest
  rw [valueWith_list front, read]
  rfl

/-- A field behind all others is put at the end. -/
theorem insertField_of_sorted {key : String} {v : Json} {fields : List (String × Json)}
    (last : ∀ field ∈ fields, keyBefore field (key, v)) :
    insertField key v fields = fields ++ [(key, v)] := by
  induction fields with
  | nil => rfl
  | cons field fields ih =>
    obtain ⟨first, others⟩ := List.forall_mem_cons.mp last
    have later : order key.toList field.1.toList = .gt := order_eq_gt_iff.mpr first
    rw [insertField, later]
    simp only [ih others, List.cons_append]

/-- Fields in the order of their keys are gathered as they are. -/
theorem gathers_fields {before fields : List (String × Json)}
    (sorted : (before ++ fields).Pairwise keyBefore)
    (reads : ∀ field ∈ fields, Reads item (l.write level field.2) field.2) :
    Gathers (placeField item) l before (l.valueTexts level fields) (before ++ fields) := by
  induction fields generalizing before with
  | nil =>
    rw [List.append_nil]
    exact .nil
  | cons field fields ih =>
    obtain ⟨first, others⟩ := List.forall_mem_cons.mp reads
    have place : insertField field.1 field.2 before = before ++ [field] := by
      refine insertField_of_sorted fun other mem => ?_
      exact (List.pairwise_append.mp sorted).2.2 other mem field (List.mem_cons_self ..)
    rw [List.append_cons] at sorted ⊢
    refine .cons (fun rest ends => ?_) (ih sorted others)
    have value := first.reads l.behindColon rest l.colon_space ends
    rw [placeField, colon, skipSpace_cons rfl]
    change (item (l.behindColon ++ (l.write level field.2 ++ rest)) >>=
      fun read => pure (insertField field.1 read.1 before, read.2)) = _
    rw [value, ok_bind, place]
    rfl

/-- An object is read if the values of its fields are, and its keys are in order. -/
theorem reads_obj {fields : List (String × Json)} (sorted : fields.Pairwise keyBefore)
    (reads : ∀ field ∈ fields, Reads item (l.write (level + 1) field.2) field.2) :
    Reads (valueWith (some item)) (l.write level (.obj fields)) (.obj fields) := by
  have gathers : Gathers (placeField item) l [] _ fields := gathers_fields sorted reads
  refine ⟨l.starts_obj level fields, fun space rest blank _ => ?_⟩
  obtain ⟨more, front, read⟩ := exists_members blank gathers rest
  rw [valueWith_object front, read]
  rfl

end Values

/-- A value is read back from its text in every layout, if no more lists and objects are open
at once than the reader allows. -/
theorem reads_value {v : Json} (whole : Whole v) (l : Layout) {most level : Nat}
    (fits : v.depth ≤ most) : Reads (value most) (l.write level v) v := by
  -- on the value; the level and what is left of the depth go with it
  induction whole generalizing most level with
  | null => cases most <;> exact reads_null
  | bool b => cases most <;> exact reads_bool b
  | int low high => cases most <;> exact reads_int low high
  | str s => cases most <;> exact reads_string s
  | @arr items _ ih =>
    obtain ⟨most, rfl⟩ : ∃ n, most = n + 1 := ⟨most - 1, by rw [depth] at fits; omega⟩
    rw [depth, Nat.add_le_add_iff_right] at fits
    refine reads_arr fun v mem => ?_
    exact ih v mem (Nat.le_trans (depth_le_depthOfItems mem) fits)
  | @obj fields sorted _ ih =>
    obtain ⟨most, rfl⟩ : ∃ n, most = n + 1 := ⟨most - 1, by rw [depth] at fits; omega⟩
    rw [depth, Nat.add_le_add_iff_right] at fits
    refine reads_obj sorted fun field mem => ?_
    exact ih field mem (Nat.le_trans (depth_le_depthOfFields mem) fits)

end Rehearsal.Json
