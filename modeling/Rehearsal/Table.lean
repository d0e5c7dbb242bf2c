/-!
# Tables

Values under names, as a list of pairs. What a table says of a name is the
value of its first pair with that name.
-/

namespace Rehearsal.Table

variable {α : Type}

/-- The value under a name. -/
def get? (key : String) : List (String × α) → Option α
  | [] => none
  | (k, v) :: rest => if k = key then some v else get? key rest

/-- Puts a value under a name, in the place of an earlier one or at the end. -/
def put (key : String) (value : α) : List (String × α) → List (String × α)
  | [] => [(key, value)]
  | (k, v) :: rest => if k = key then (key, value) :: rest else (k, v) :: put key value rest

/-- Takes a name out. -/
def erase (key : String) : List (String × α) → List (String × α)
  | [] => []
  | (k, v) :: rest => if k = key then erase key rest else (k, v) :: erase key rest

@[simp] theorem get?_nil (key : String) : get? key ([] : List (String × α)) = none := rfl

theorem get?_cons (key k : String) (v : α) (rest : List (String × α)) :
    get? key ((k, v) :: rest) = if k = key then some v else get? key rest := rfl

/-- Putting changes what the table says of the one name. -/
theorem get?_put (key other : String) (value : α) (table : List (String × α)) :
    get? other (put key value table) = if key = other then some value else get? other table := by
  induction table with
  | nil => simp [put, get?]
  | cons pair rest ih =>
    obtain ⟨k, v⟩ := pair
    by_cases hk : k = key
    · subst hk
      by_cases h : k = other <;> simp [put, get?, h]
    · by_cases h : k = other
      · subst h
        simp [put, get?, hk, Ne.symm hk]
      · simp [put, get?, hk, h, ih]

/-- Erasing changes what the table says of the one name. -/
theorem get?_erase (key other : String) (table : List (String × α)) :
    get? other (erase key table) = if key = other then none else get? other table := by
  induction table with
  | nil => simp [erase, get?]
  | cons pair rest ih =>
    obtain ⟨k, v⟩ := pair
    by_cases hk : k = key
    · subst hk
      by_cases h : k = other
      · subst h
        simp [erase, ih]
      · simp [erase, get?, h, ih]
    · by_cases h : k = other
      · subst h
        simp [erase, get?, hk, Ne.symm hk]
      · simp [erase, get?, hk, h, ih]

theorem get?_eq_none {key : String} {table : List (String × α)}
    (absent : key ∉ table.map Prod.fst) : get? key table = none := by
  induction table with
  | nil => rfl
  | cons pair rest ih =>
    rw [List.map_cons, List.mem_cons, not_or] at absent
    rw [get?_cons, if_neg (Ne.symm absent.1), ih absent.2]

theorem isSome_get?_iff {key : String} {table : List (String × α)} :
    (get? key table).isSome ↔ key ∈ table.map Prod.fst := by
  induction table with
  | nil => simp
  | cons pair rest ih =>
    rw [get?_cons, List.map_cons, List.mem_cons, ← ih]
    split
    next same => exact iff_of_true rfl (.inl same.symm)
    next other => exact ⟨.inr, fun given => given.resolve_left (Ne.symm other)⟩

/-- Where no name stands twice, each pair counts. -/
theorem get?_of_mem {key : String} {value : α} {table : List (String × α)}
    (names : (table.map Prod.fst).Nodup) (mem : (key, value) ∈ table) :
    get? key table = some value := by
  induction table with
  | nil => nomatch mem
  | cons pair rest ih =>
    obtain ⟨fresh, others⟩ := List.nodup_cons.mp names
    obtain same | mem := List.mem_cons.mp mem
    · obtain rfl := same
      exact if_pos rfl
    · have other : pair.1 ≠ key := by
        intro same
        exact fresh (List.mem_map.mpr ⟨(key, value), mem, same.symm⟩)
      rw [get?_cons, if_neg other, ih others mem]

theorem mem_of_get? {key : String} {value : α} {table : List (String × α)}
    (found : get? key table = some value) : (key, value) ∈ table := by
  induction table with
  | nil => nomatch found
  | cons pair rest ih =>
    obtain ⟨k, v⟩ := pair
    rw [get?_cons] at found
    split at found
    next same =>
      obtain rfl := same
      obtain rfl := Option.some.inj found
      exact List.mem_cons_self
    next => exact List.mem_cons_of_mem _ (ih found)

/-- A new name goes to the end. -/
theorem put_of_absent {key : String} {table : List (String × α)} (absent : key ∉ table.map Prod.fst)
    (value : α) : put key value table = table ++ [(key, value)] := by
  induction table with
  | nil => rfl
  | cons pair rest ih =>
    rw [List.map_cons, List.mem_cons, not_or] at absent
    rw [put, if_neg (Ne.symm absent.1), ih absent.2]
    rfl

theorem absent_of_nodup {pair : String × α} {table pairs : List (String × α)}
    (names : ((table ++ pair :: pairs).map Prod.fst).Nodup) : pair.1 ∉ table.map Prod.fst := by
  intro present
  rw [List.map_append, List.nodup_append] at names
  exact names.2.2 pair.1 present pair.1 (List.mem_map_of_mem List.mem_cons_self) rfl

/-- Pairs with different names, put one after another, make the table of these pairs. -/
theorem foldl_put {pairs table : List (String × α)}
    (names : ((table ++ pairs).map Prod.fst).Nodup) :
    pairs.foldl (fun table pair => put pair.1 pair.2 table) table = table ++ pairs := by
  induction pairs generalizing table with
  | nil => rw [List.foldl_nil, List.append_nil]
  | cons pair pairs ih =>
    have absent := absent_of_nodup names
    rw [List.append_cons] at names
    rw [List.foldl_cons, put_of_absent absent, ih names, ← List.append_cons]

end Rehearsal.Table
