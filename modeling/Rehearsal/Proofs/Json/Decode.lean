import Rehearsal.Json.Decode

/-!
# Records from values

What it takes for a record to come out of the fields of an object, one field after the
other. Decoders of lists are those of their items.
-/

namespace Rehearsal.Json

theorem ok_bind {ε α β : Type} (x : α) (f : α → Except ε β) : (Except.ok x >>= f) = f x := rfl

theorem bind_eq_ok_iff {ε α β : Type} {taken : Except ε α} {f : α → Except ε β} {y : β} :
    (taken >>= f) = .ok y ↔ ∃ x, taken = .ok x ∧ f x = .ok y := by
  cases taken with
  | error m => exact iff_of_false nofun (by rintro ⟨x, same, -⟩; nomatch same)
  | ok x =>
    constructor
    · intro made
      exact ⟨x, rfl, made⟩
    · rintro ⟨z, same, made⟩
      exact Except.ok.inj same ▸ made

theorem asList_map {α β : Type} {decoder : Decoder α} {entry : β → Json} {make : β → α}
    (decoded : ∀ x, decoder (entry x) = .ok (make x)) (xs : List β) :
    asList decoder (.arr (xs.map entry)) = .ok (xs.map make) := by
  rw [asList]
  induction xs with
  | nil => rfl
  | cons x xs ih =>
    rw [List.map_cons, List.mapM_cons, decoded, ih]
    rfl

/-- A field with a value that decodes is stored. -/
theorem put_valueField {σ α : Type} {decoder : Decoder α} {v : Json} {x : α}
    (decoded : decoder v = .ok x) (name : String) (absent : Absence) (store : σ → α → σ) (s : σ) :
    (valueField name absent decoder store).put v s = .ok (store s x) := by
  change (decoder v).map (store s) = _
  rw [decoded]
  rfl

variable {σ : Type} {shape : Shape σ (PutValue σ)}

/-- What fields make of a record, if none of them is refused. -/
inductive Fills (shape : Shape σ (PutValue σ)) : List (String × Json) → σ → σ → Prop
  | nil (s : σ) : Fills shape [] s s
  | cons {field : String × Json} {fields : List (String × Json)} {s t u : σ}
      (put : putField shape s field = .ok t) (rest : Fills shape fields t u) :
      Fills shape (field :: fields) s u

theorem foldlM_putField {fields : List (String × Json)} {s u : σ} :
    fields.foldlM (putField shape) s = .ok u ↔ Fills shape fields s u := by
  constructor
  · intro folded
    induction fields generalizing s with
    | nil =>
      obtain rfl := Except.ok.inj folded
      exact .nil s
    | cons field fields ih =>
      rw [List.foldlM_cons] at folded
      cases put : putField shape s field with
      | error m =>
        rw [put] at folded
        nomatch folded
      | ok t =>
        rw [put] at folded
        exact .cons put (ih folded)
  · intro fills
    induction fills with
    | nil => rfl
    | cons put _ ih =>
      rw [List.foldlM_cons, put]
      exact ih

/-- A record comes out exactly if no field is refused and none is missing. -/
theorem fromFields_eq_ok_iff {fields : List (String × Json)} {u : σ} :
    fromFields shape fields = .ok u ↔
      Fills shape fields shape.start u ∧ shape.missing? (fields.map Prod.fst) = none := by
  rw [← foldlM_putField, fromFields]
  cases fields.foldlM (putField shape) shape.start with
  | error m => constructor <;> intro h <;> nomatch h
  | ok s =>
    rw [ok_bind]
    cases shape.missing? (fields.map Prod.fst) with
    | none => simp
    | some name => simp

end Rehearsal.Json
