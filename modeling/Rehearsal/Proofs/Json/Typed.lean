import Mathlib.Data.List.TakeWhile
import Rehearsal.Json.Typed
import Rehearsal.Proofs.Json.Value

/-!
# Records are read back

The readers of a known shape take the texts that are written for their values: strings,
lists whose items are read, and records whose fields are read one after another, each of
them known and none of them twice. What is read may be all of a document, with nothing but
space behind it.
-/

namespace Rehearsal.Json

open Text

section Lists

variable {α : Type} {l : Layout} {level : Nat}

theorem reads_textAs {wanted : String} {make : String → Except Mismatch α} {s : String} {x : α}
    (made : make s = .ok x) : Reads (textAs wanted make) (l.write level (.str s)) x where
  starts := ⟨'"', _, rfl, rfl, by decide⟩
  reads space rest blank _ := by
    rw [Layout.write, compact, textAs, skipSpace_quote blank]
    change (string (s.toList.flatMap escapeChar ++ '"' :: rest) >>= fun read => _) = _
    rw [string_quoted, ok_bind]
    dsimp only
    rw [made]
    rfl

/-- A number without a sign is read if it fits into the bits that there are for it. -/
theorem reads_unsigned {bits n : Nat} (few : bits ≤ 64) (fits : n < 2 ^ bits) (wanted : String) :
    Reads (unsigned bits wanted) (l.write level (.int n)) n := by
  have within : n < 2 ^ 64 := Nat.lt_of_lt_of_le fits (Nat.pow_le_pow_right (by decide) few)
  obtain ⟨c, more, text, first, read⟩ := number_intText (n := n) (by omega) (by omega)
  have asValue : Reads (valueWith none) (intText n) (.int n) := reads_int (by omega) (by omega)
  have sign : (c = '-' || c.isDigit) = true := by simpa using first
  have bounded : (decide (0 ≤ (n : Int)) && decide ((n : Int).toNat < 1 <<< bits)) = true := by
    simp [Nat.one_shiftLeft, fits]
  refine ⟨asValue.starts, fun space rest blank ends => ?_⟩
  have front : skipSpace (space ++ (l.write level (.int n) ++ rest)) = c :: (more ++ rest) := by
    rw [Layout.write, compact, asValue.skipSpace_eq blank, text, List.cons_append]
  rw [unsigned, front]
  dsimp only
  rw [if_pos sign, read rest ends, ok_bind]
  dsimp only
  rw [if_pos bounded]
  rfl

/-- A list is read if its items are. -/
theorem reads_list {item : (depth : Nat) → Reader α} {depth : Nat} {items : List Json}
    {xs : List α} (h : List.Forall₂ (Reads (item depth)) (items.map (l.write (level + 1))) xs) :
    Reads (list item (depth + 1)) (l.write level (.arr items)) xs := by
  refine ⟨l.starts_arr level items, fun space rest blank _ => ?_⟩
  obtain ⟨more, front, read⟩ := exists_items blank h rest
  rw [list, front]
  exact read

end Lists

section Records

variable {σ α : Type} {shape : Shape σ (Put σ)} {depth level : Nat} {l : Layout}

/-- One more field of a record is read. -/
theorem gathers_field {name : String} {absent : Absence} {reader : (depth : Nat) → Reader α}
    {store : σ → α → σ} {s : σ} {seen : List String} {v : Json} {x : α}
    {fields : List (String × List Char)} {t : σ × List String}
    (known : shape.field? name = some (textField name absent reader store))
    (fresh : name ∉ seen) (value : Reads (reader depth) (l.write level v) x)
    (others : Gathers (namedField shape depth) l (store s x, name :: seen) fields t) :
    Gathers (namedField shape depth) l (s, seen) ((name, l.write level v) :: fields) t := by
  refine .cons (fun rest ends => ?_) others
  have unseen : seen.contains name = false := by simpa using fresh
  have behind : colon (':' :: (l.behindColon ++ (l.write level v ++ rest))) =
      .ok (l.behindColon ++ (l.write level v ++ rest)) := by
    rw [colon, skipSpace_cons rfl]
    rfl
  have put : (textField name absent reader store).put depth s
      (l.behindColon ++ (l.write level v ++ rest)) = .ok (store s x, rest) := by
    rw [textField]
    dsimp only
    rw [value.reads _ rest l.colon_space ends]
    rfl
  rw [namedField, known]
  dsimp only
  rw [unseen, if_neg (by decide), behind, ok_bind, put]
  rfl

/-- A record is read if its fields are gathered and none is missing then. -/
theorem reads_record {fields : List (String × Json)} {s : σ} {seen : List String}
    (gathers : Gathers (namedField shape depth) l (shape.start, [])
      (l.valueTexts (level + 1) fields) (s, seen))
    (complete : shape.missing? seen = none) :
    Reads (record shape (depth + 1)) (l.write level (.obj fields)) s := by
  refine ⟨l.starts_obj level fields, fun space rest blank _ => ?_⟩
  obtain ⟨more, front, read⟩ := exists_members blank gathers rest
  rw [record, front]
  change (members (namedField shape depth) (more.length + 1) true (shape.start, []) more >>=
    fun read => _) = _
  rw [read, ok_bind]
  dsimp only
  rw [complete]
  rfl

end Records

/-- A text that is read is a document, with any space behind it. -/
theorem document_of_reads {α : Type} {reader : Reader α} {text space : List Char} {x : α}
    (h : Reads reader text x) (blank : ∀ c ∈ space, isSpace c = true) :
    document reader (text ++ space) = .ok x := by
  have ends : Ends space := fun c more split => .inl (blank c (by simp [split]))
  have read : reader (text ++ space) = .ok (x, space) :=
    h.reads [] space (List.forall_mem_nil _) ends
  have nothing : skipSpace space = [] := List.dropWhile_eq_nil_iff.mpr blank
  rw [document, read, ok_bind]
  dsimp only
  rw [nothing]
  rfl

section Documents

variable {α : Type} {reader : Reader α} {v : Json} {x : α}

theorem document_compactText (h : ∀ l : Layout, Reads reader (l.write 0 v) x) :
    document reader v.compactText.toList = .ok x := by
  have read := document_of_reads (h .compact) (List.forall_mem_nil fun c => isSpace c = true)
  rwa [List.append_nil, Layout.write_compact, ← String.toList_ofList (l := v.compact)] at read

theorem document_prettyText (h : ∀ l : Layout, Reads reader (l.write 0 v) x) (space : String)
    (blank : ∀ c ∈ space.toList, isSpace c = true) :
    document reader (v.prettyText ++ space).toList = .ok x := by
  have read := document_of_reads (h .pretty) blank
  rwa [Layout.write_pretty, ← String.toList_ofList (l := v.pretty 0), ← String.toList_append] at read

end Documents

end Rehearsal.Json
