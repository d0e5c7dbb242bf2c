import Rehearsal.Proofs.Json.Record

/-!
# Records by position

A record is also taken from a list that has its values in the order of its fields. Such a list
is taken exactly if it is neither too short nor too long, and if the object is taken that has
the values under the names of the fields. So what a record is taken from can be named first,
and be looked at as an object from there on.
-/

namespace Rehearsal

namespace Table

variable {α : Type} {table other : List (String × α)}

/-- The order of a table does not matter where no name stands twice. -/
theorem get?_of_perm (names : (table.map Prod.fst).Nodup) (perm : table.Perm other)
    (key : String) : get? key table = get? key other := by
  have others : (other.map Prod.fst).Nodup := (perm.map Prod.fst).nodup_iff.mp names
  cases found : get? key other with
  | some value => exact get?_of_mem names (perm.mem_iff.mpr (mem_of_get? found))
  | none =>
    cases given : get? key table with
    | none => rfl
    | some value =>
      have there := get?_of_mem others (perm.mem_iff.mp (mem_of_get? given))
      nomatch found.symm.trans there

end Table

namespace Json

open Text

/-! ### Objects of fields with different keys -/

theorem insertField_perm {α : Type} {key : String} {fields : List (String × α)}
    (fresh : key ∉ fields.map Prod.fst) (value : α) :
    (insertField key value fields).Perm ((key, value) :: fields) := by
  induction fields with
  | nil => exact .refl _
  | cons field fields ih =>
    obtain ⟨k, v⟩ := field
    rw [List.map_cons, List.mem_cons, not_or] at fresh
    rw [insertField]
    split
    · exact .refl _
    next same => exact absurd (String.toList_injective (order_eq_iff.mp same)) fresh.1
    · exact ((ih fresh.2).cons (k, v)).trans (.swap ..)

theorem foldl_insertField_perm {fields before : List (String × Json)}
    (keys : ((before ++ fields).map Prod.fst).Nodup) :
    (fields.foldl (fun sorted field => insertField field.1 field.2 sorted) before).Perm
      (before ++ fields) := by
  induction fields generalizing before with
  | nil => rw [List.foldl_nil, List.append_nil]
  | cons field fields ih =>
    have fresh : field.1 ∉ before.map Prod.fst := Table.absent_of_nodup keys
    have placed : (insertField field.1 field.2 before ++ fields).Perm (before ++ field :: fields) :=
      ((insertField_perm fresh field.2).append_right fields).trans List.perm_middle.symm
    rw [List.foldl_cons]
    exact (ih ((placed.map Prod.fst).nodup_iff.mpr keys)).trans placed

/-- The fields of an object are those it is made of, in order. -/
theorem exists_object_eq {fields : List (String × Json)} (keys : (fields.map Prod.fst).Nodup) :
    ∃ sorted, object fields = .obj sorted ∧ sorted.Perm fields :=
  ⟨_, rfl, foldl_insertField_perm keys⟩

theorem isObject_object {fields : List (String × Json)} (keys : (fields.map Prod.fst).Nodup) :
    (object fields).IsObject := by
  obtain ⟨sorted, made, perm⟩ := exists_object_eq keys
  exact ⟨sorted, made, (perm.map Prod.fst).nodup_iff.mpr keys⟩

/-! ### Values by position -/

/-- The names of the fields of a record, and how many values of it may not be left out. -/
structure Positions where
  names : List String
  least : Nat

namespace Positions

variable (p : Positions)

/-- An object, or a list that is neither too short nor too long. -/
inductive Fits : Json → Prop
  | fields (fields : List (String × Json)) : Fits (.obj fields)
  | items (items : List Json) (least : p.least ≤ items.length)
      (most : items.length ≤ p.names.length) : Fits (.arr items)

/-- A list as the object that has its values under the names. -/
def named : Json → Json
  | .arr items => object (p.names.zip items)
  | v => v

variable {p}

theorem fits_arr_iff {items : List Json} :
    p.Fits (.arr items) ↔ p.least ≤ items.length ∧ items.length ≤ p.names.length := by
  constructor
  · intro fits
    cases fits with
    | items _ least most => exact ⟨least, most⟩
  · rintro ⟨least, most⟩
    exact .items items least most

/-- As many names count as there are values. -/
theorem map_fst_zip (names : List String) (items : List Json) :
    (names.zip items).map Prod.fst = names.take items.length := by
  induction names generalizing items with
  | nil => rw [List.take_nil]; rfl
  | cons name names ih =>
    cases items with
    | nil => rfl
    | cons v vs => exact congrArg (name :: ·) (ih vs)

theorem zip_nodup (distinct : p.names.Nodup) (items : List Json) :
    ((p.names.zip items).map Prod.fst).Nodup := by
  rw [map_fst_zip]
  exact distinct.sublist (List.take_sublist _ _)

end Positions

section Record

variable {σ : Type} {shape : Shape σ (PutValue σ)} {slots : List (Slot σ)}
variable {f : Field (PutValue σ)} {fs : List (Field (PutValue σ))} {total index n : Nat}
variable {items : List Json} {s u : σ}

/-- How many values of fields may not be left out of a list. -/
def leastOf : List (Field (PutValue σ)) → Nat
  | [] => 0
  | f :: fs => if leastOf fs = 0 ∧ f.absent = .allowed then 0 else leastOf fs + 1

theorem leastOf_cons_le : leastOf (f :: fs) ≤ n + 1 ↔ leastOf fs ≤ n := by
  rw [leastOf]
  split <;> omega

/-- Every field that may not be left out is among the first ones. -/
theorem mem_take_of_leastOf (least : leastOf fs ≤ n) (mem : f ∈ fs) (needed : f.absent ≠ .allowed) :
    f ∈ fs.take n := by
  induction fs generalizing n with
  | nil => nomatch mem
  | cons g fs ih =>
    cases n with
    | zero =>
      rw [leastOf, Nat.le_zero_eq] at least
      split at least
      next absent =>
        obtain rfl | behind := List.mem_cons.mp mem
        · exact absurd absent.2 needed
        · nomatch ih (n := 0) (Nat.le_of_eq absent.1) behind
      next => nomatch least
    | succ n =>
      rw [List.take_succ_cons, List.mem_cons]
      obtain rfl | behind := List.mem_cons.mp mem
      · exact .inl rfl
      · exact .inr (ih (leastOf_cons_le.mp least) behind)

theorem fills_nil_iff : Fills shape [] s u ↔ s = u := by
  constructor
  · intro fills
    cases fills
    rfl
  · rintro rfl
    exact .nil s

theorem fills_cons_iff {field : String × Json} {fields : List (String × Json)} :
    Fills shape (field :: fields) s u ↔
      ∃ t, putField shape s field = .ok t ∧ Fills shape fields t u := by
  constructor
  · intro fills
    cases fills with
    | cons put rest => exact ⟨_, put, rest⟩
  · rintro ⟨t, put, rest⟩
    exact .cons put rest

theorem fromItems_nil_iff :
    fromItems shape total fs index [] s = .ok u ↔ leastOf fs = 0 ∧ s = u := by
  induction fs generalizing index with
  | nil => rw [fromItems, Except.ok.injEq, leastOf, eq_self_iff_true, true_and]
  | cons f fs ih =>
    rw [fromItems, leastOf]
    by_cases allowed : f.absent = .allowed
    · rw [if_pos (beq_iff_eq.mpr allowed), ih]
      by_cases least : leastOf fs = 0 <;> simp [allowed, least]
    · rw [if_neg (mt beq_iff_eq.mp allowed), if_neg fun absent => allowed absent.2]
      exact iff_of_false nofun fun none => nomatch none.1

/-- A list is taken if its values fill the fields in their places, and no value that may not
be left out is missing. -/
theorem fromItems_eq_ok_iff (found : ∀ f ∈ fs, shape.field? f.name = some f) :
    fromItems shape total fs index items s = .ok u ↔
      leastOf fs ≤ items.length ∧ items.length ≤ fs.length ∧
        Fills shape ((fs.map Field.name).zip items) s u := by
  -- field by field, with the value in its place if the list goes on
  induction fs generalizing index items s with
  | nil =>
    cases items with
    | nil => simp [fromItems_nil_iff, leastOf, fills_nil_iff]
    | cons v vs => exact iff_of_false nofun fun taken => nomatch taken.2.1
  | cons f fs ih =>
    obtain ⟨first, behind⟩ := List.forall_mem_cons.mp found
    cases items with
    | nil => simp [fromItems_nil_iff, fills_nil_iff]
    | cons v vs =>
      have put : putField shape s (f.name, v) = f.put v s := by
        rw [putField, first]
      rw [fromItems, bind_eq_ok_iff, List.map_cons, List.zip_cons_cons, fills_cons_iff, put,
        List.length_cons, List.length_cons, leastOf_cons_le, Nat.add_le_add_iff_right]
      simp only [ih behind]
      constructor
      · rintro ⟨t, stored, least, most, fills⟩
        exact ⟨least, most, t, stored, fills⟩
      · rintro ⟨least, most, t, stored, fills⟩
        exact ⟨t, stored, least, most, fills⟩

end Record

end Json

/-- What there is to know about lists that a record is taken from. -/
def Shape.positions {σ : Type} (shape : Shape σ (Json.PutValue σ)) : Json.Positions :=
  ⟨shape.fields.map Field.name, Json.leastOf shape.fields⟩

namespace Json

section Record

variable {σ : Type} {shape : Shape σ (PutValue σ)} {slots : List (Slot σ)} {u : σ}

theorem names_positions (made : shape.fields = slots.map Slot.field) :
    shape.positions.names = slots.map Slot.name := by
  rw [Shape.positions, made, List.map_map]
  rfl

/-- Every field is found by its name. -/
theorem field?_of_mem (apart : Apart slots) (made : shape.fields = slots.map Slot.field) :
    ∀ f ∈ shape.fields, shape.field? f.name = some f := by
  rw [made, List.forall_mem_map]
  intro p mem
  obtain ⟨q, q_mem, named, found⟩ | ⟨others, -⟩ := field?_cases made p.name
  · obtain rfl := List.inj_on_of_nodup_map apart.once q_mem mem named
    exact found
  · exact absurd rfl (others p mem)

/-- Values that may not be left out are not missing from a list that has enough. -/
theorem missing?_eq_none_of_least {items : List Json}
    (least : shape.positions.least ≤ items.length) :
    shape.missing? ((shape.positions.names.zip items).map Prod.fst) = none := by
  rw [Shape.missing?, Option.map_eq_none_iff, List.find?_eq_none]
  intro f mem missing
  rw [Bool.and_eq_true, beq_iff_eq, Bool.not_eq_true', List.contains_eq_mem,
    decide_eq_false_iff_not] at missing
  apply missing.2
  have needed : f.absent ≠ .allowed := by
    rw [missing.1]
    decide
  rw [Positions.map_fst_zip, Shape.positions, ← List.map_take]
  exact List.mem_map_of_mem (mem_take_of_leastOf least mem needed)

/-- The fields of an object may come in any order. -/
theorem fromFields_eq_ok_iff_of_perm (apart : Apart slots)
    (made : shape.fields = slots.map Slot.field) {fields others : List (String × Json)}
    (keys : (fields.map Prod.fst).Nodup) (perm : fields.Perm others) :
    fromFields shape fields = .ok u ↔ fromFields shape others = .ok u := by
  have otherKeys : (others.map Prod.fst).Nodup := (perm.map Prod.fst).nodup_iff.mp keys
  rw [fromFields_eq_ok_iff_reads apart made keys, fromFields_eq_ok_iff_reads apart made otherKeys]
  simp only [Slot.Reads, Table.get?_of_perm keys perm]

/-- A record is taken from what fits, and then from the object with the names. -/
theorem asRecord_eq_ok_iff_named (apart : Apart slots)
    (made : shape.fields = slots.map Slot.field) {v : Json} :
    asRecord shape v = .ok u ↔
      shape.positions.Fits v ∧ asRecord shape (shape.positions.named v) = .ok u := by
  cases v with
  | obj fields => exact (and_iff_right (.fields fields)).symm
  | arr items =>
    have distinct : shape.positions.names.Nodup := by
      rw [names_positions made]
      exact apart.once
    have keys := Positions.zip_nodup distinct items
    -- the object has the fields in the order of their keys, which makes no difference
    obtain ⟨sorted, same, perm⟩ := exists_object_eq keys
    rw [asRecord, fromItems_eq_ok_iff (field?_of_mem apart made), Positions.named, same, asRecord,
      fromFields_eq_ok_iff_of_perm apart made ((perm.map Prod.fst).nodup_iff.mpr keys) perm,
      fromFields_eq_ok_iff, Positions.fits_arr_iff]
    have count : shape.positions.names.length = shape.fields.length := List.length_map _
    rw [count, and_assoc]
    constructor
    · rintro ⟨least, most, fills⟩
      exact ⟨least, most, fills, missing?_eq_none_of_least least⟩
    · rintro ⟨least, most, fills, -⟩
      exact ⟨least, most, fills⟩
  | _ => exact iff_of_false nofun (by rintro ⟨⟨⟩, -⟩)

/-- What is made of a record is made of what fits, and then of the object with the names. -/
theorem asRecord_bind_eq_ok_iff_named (apart : Apart slots)
    (made : shape.fields = slots.map Slot.field) {β : Type} {make : σ → Except Mismatch β}
    {v : Json} {y : β} :
    (asRecord shape v >>= make) = .ok y ↔
      shape.positions.Fits v ∧ (asRecord shape (shape.positions.named v) >>= make) = .ok y := by
  simp only [bind_eq_ok_iff]
  constructor
  · rintro ⟨u, record, makes⟩
    obtain ⟨fits, named⟩ := (asRecord_eq_ok_iff_named apart made).mp record
    exact ⟨fits, u, named, makes⟩
  · rintro ⟨fits, u, named, makes⟩
    exact ⟨u, (asRecord_eq_ok_iff_named apart made).mpr ⟨fits, named⟩, makes⟩

end Record

/-! ### Parts of values -/

/-- Values in which every object has each of its keys once. -/
inductive Keyed : Json → Prop
  | null : Keyed .null
  | bool (b : Bool) : Keyed (.bool b)
  | int (n : Int) : Keyed (.int n)
  | float (x : Binary64) : Keyed (.float x)
  | str (s : String) : Keyed (.str s)
  | arr {items : List Json} (each : ∀ v ∈ items, Keyed v) : Keyed (.arr items)
  | obj {fields : List (String × Json)} (keys : (fields.map Prod.fst).Nodup)
      (each : ∀ field ∈ fields, Keyed field.2) : Keyed (.obj fields)

theorem Keyed.of_field? {v w : Json} {key : String} (keyed : v.Keyed)
    (found : v.field? key = some w) : w.Keyed := by
  cases keyed with
  | obj keys each => exact each _ (Table.mem_of_get? found)
  | _ => nomatch found

namespace Positions

variable {p : Positions} {v : Json}

/-- What fits is an object once it is named. -/
theorem Fits.isObject_named (fits : p.Fits v) (distinct : p.names.Nodup) (keyed : v.Keyed) :
    (p.named v).IsObject := by
  cases fits with
  | fields fields =>
    cases keyed with
    | obj keys _ => exact ⟨fields, rfl, keys⟩
  | items items => exact isObject_object (zip_nodup distinct items)

theorem keyed_named (distinct : p.names.Nodup) (keyed : v.Keyed) : (p.named v).Keyed := by
  cases keyed with
  | @arr items each =>
    obtain ⟨sorted, made, perm⟩ := exists_object_eq (zip_nodup distinct items)
    rw [named, made]
    apply Keyed.obj
    · exact (perm.map Prod.fst).nodup_iff.mpr (zip_nodup distinct items)
    · rintro ⟨name, value⟩ mem
      exact each value (List.of_mem_zip (perm.mem_iff.mp mem)).2
  | obj keys each => exact .obj keys each
  | null => exact .null
  | bool b => exact .bool b
  | int n => exact .int n
  | float x => exact .float x
  | str s => exact .str s

end Positions

/-- A value with something done to one of its fields. -/
def mapField (key : String) (f : Json → Json) : Json → Json
  | .obj fields => .obj (fields.map fun x => if x.1 = key then (x.1, f x.2) else x)
  | v => v

/-- A value with something done to each of its items. -/
def mapItems (f : Json → Json) : Json → Json
  | .arr items => .arr (items.map f)
  | v => v

section Map

variable {key other : String} {f : Json → Json} {v : Json} {items : List Json}

theorem field?_mapField : (v.mapField key f).field? other =
    if key = other then (v.field? other).map f else v.field? other := by
  cases v with
  | obj fields =>
    simp only [mapField, field?]
    induction fields with
    | nil => simp
    | cons field fields ih =>
      obtain ⟨k, w⟩ := field
      rw [List.map_cons, Table.get?_cons]
      by_cases named : k = key
      · subst named
        rw [if_pos rfl, Table.get?_cons, ih]
        by_cases asked : k = other <;> simp [asked]
      · rw [if_neg named, Table.get?_cons, ih]
        by_cases asked : k = other
        · have elsewhere : key ≠ other := fun same => named (asked.trans same.symm)
          simp [asked, elsewhere]
        · simp [asked]
  | _ => simp [mapField, field?]

theorem IsObject.mapField (isObject : v.IsObject) : (v.mapField key f).IsObject := by
  obtain ⟨fields, rfl, keys⟩ := isObject
  refine ⟨_, rfl, ?_⟩
  rw [List.map_map]
  have same : Prod.fst ∘ (fun x : String × Json => if x.1 = key then (x.1, f x.2) else x) =
      Prod.fst := by
    funext x
    dsimp only [Function.comp]
    split <;> rfl
  rwa [same]

theorem mapItems_eq_arr_iff :
    v.mapItems f = .arr items ↔ ∃ before, v = .arr before ∧ before.map f = items := by
  cases v <;> simp [mapItems]

end Map

end Json
end Rehearsal
