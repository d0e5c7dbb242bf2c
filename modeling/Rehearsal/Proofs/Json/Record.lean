import Mathlib.Data.List.Forall2
import Mathlib.Data.List.Nodup
import Rehearsal.Proofs.Json.Decode

/-!
# Records by their parts

The fields of an object come in any order, and each of them goes into one part of the record.
If the parts are independent of each other, then the record that comes out is known part by
part: `fromFields_eq_ok_iff_reads` says that a part is what the field of its name decodes to,
or what was there before if there is no such field.
-/

namespace Rehearsal

namespace Json

/-- A field of a record with the part of the record that it goes to. -/
structure Slot (σ : Type) where
  {α : Type}
  name : String
  absent : Absence
  decoder : Decoder α
  get : σ → α
  set : σ → α → σ

namespace Slot

variable {σ : Type}

def field (p : Slot σ) : Field (PutValue σ) := valueField p.name p.absent p.decoder p.set

/-- The part is what the field decodes to, or what it was before. -/
def Settles (p : Slot σ) (fields : List (String × Json)) (s u : σ) : Prop :=
  match Table.get? p.name fields with
  | some v => p.decoder v = .ok (p.get u)
  | none => p.get u = p.get s

/-- The part is what the field decodes to, or what it is without a field that may be left
out. -/
def Reads (p : Slot σ) (start : σ) (fields : List (String × Json)) (u : σ) : Prop :=
  match Table.get? p.name fields with
  | some v => p.decoder v = .ok (p.get u)
  | none => p.absent ≠ .refused ∧ p.get u = p.get start

theorem reads_iff {p : Slot σ} {start u : σ} {fields : List (String × Json)} :
    p.Reads start fields u ↔
      p.Settles fields start u ∧ (p.absent = .refused → (Table.get? p.name fields).isSome) := by
  rw [Reads, Settles]
  cases Table.get? p.name fields with
  | some v => exact (and_iff_left fun _ => rfl).symm
  | none =>
    rw [and_comm]
    refine and_congr_right fun _ => ?_
    constructor
    · intro given refused
      exact absurd refused given
    · intro given refused
      nomatch given refused

/-- What was there before and the fields leave one value for the part. -/
theorem Settles.get_eq {p : Slot σ} {fields : List (String × Json)} {s t u : σ}
    (settles : p.Settles fields s t) (again : p.Settles fields s u) : p.get t = p.get u := by
  rw [Settles] at settles again
  cases given : Table.get? p.name fields with
  | some v =>
    rw [given] at settles again
    exact Except.ok.inj (settles.symm.trans again)
  | none =>
    rw [given] at settles again
    exact settles.trans again.symm

theorem put_eq_ok_iff {p : Slot σ} {v : Json} {s t : σ} :
    p.field.put v s = .ok t ↔ ∃ x, p.decoder v = .ok x ∧ t = p.set s x := by
  change (p.decoder v).map (p.set s) = .ok t ↔ _
  cases p.decoder v with
  | error m => exact iff_of_false nofun (by rintro ⟨x, x_read, -⟩; nomatch x_read)
  | ok x =>
    constructor
    · intro put
      exact ⟨x, rfl, (Except.ok.inj put).symm⟩
    · rintro ⟨y, y_read, rfl⟩
      obtain rfl := Except.ok.inj y_read
      rfl

end Slot

/-- The fields of a record each have a part to themselves, and there are no other parts. -/
structure Apart {σ : Type} (slots : List (Slot σ)) : Prop where
  once : (slots.map Slot.name).Nodup
  get_set : ∀ p ∈ slots, ∀ s x, p.get (p.set s x) = x
  get_set_of_ne : ∀ p ∈ slots, ∀ q ∈ slots, p.name ≠ q.name → ∀ s x, p.get (q.set s x) = p.get s
  whole : ∀ s t, (∀ p ∈ slots, p.get s = p.get t) → s = t

section Record

variable {σ : Type} {shape : Shape σ (PutValue σ)} {slots : List (Slot σ)}

/-- A name is looked up among the slots. -/
theorem field?_cases (made : shape.fields = slots.map Slot.field) (name : String) :
    (∃ q ∈ slots, q.name = name ∧ shape.field? name = some q.field) ∨
      (∀ q ∈ slots, q.name ≠ name) ∧ shape.field? name = none := by
  rw [Shape.field?, made]
  cases found : (slots.map Slot.field).find? fun f => f.name == name with
  | some f =>
    obtain ⟨q, mem, rfl⟩ := List.mem_map.mp (List.mem_of_find?_eq_some found)
    have named := List.find?_some found
    exact .inl ⟨q, mem, eq_of_beq named, rfl⟩
  | none =>
    refine .inr ⟨?_, rfl⟩
    rintro q mem rfl
    have other := List.find?_eq_none.mp found q.field (List.mem_map_of_mem mem)
    exact other (beq_self_eq_true q.name)

theorem putField_cases (made : shape.fields = slots.map Slot.field) (s : σ)
    (field : String × Json) :
    (∃ q ∈ slots, q.name = field.1 ∧ putField shape s field = q.field.put field.2 s) ∨
      (∀ q ∈ slots, q.name ≠ field.1) ∧ putField shape s field = .ok s := by
  rw [putField]
  obtain ⟨q, mem, named, found⟩ | ⟨others, found⟩ := field?_cases made field.1
  · rw [found]
    exact .inl ⟨q, mem, named, rfl⟩
  · rw [found]
    exact .inr ⟨others, rfl⟩

/-- One field settles the part of its name. -/
theorem settles_putField (apart : Apart slots) (made : shape.fields = slots.map Slot.field)
    {s t : σ} {field : String × Json} (put : putField shape s field = .ok t) {p : Slot σ}
    (mem : p ∈ slots) : p.Settles [field] s t := by
  obtain ⟨key, v⟩ := field
  rw [Slot.Settles, Table.get?_cons]
  obtain ⟨q, q_mem, rfl, puts⟩ | ⟨others, puts⟩ := putField_cases made s (key, v)
  · rw [puts] at put
    obtain ⟨x, decoded, rfl⟩ := Slot.put_eq_ok_iff.mp put
    by_cases same : q.name = p.name
    · obtain rfl := List.inj_on_of_nodup_map apart.once q_mem mem same
      rw [if_pos rfl, apart.get_set q mem]
      exact decoded
    · rw [if_neg same]
      exact apart.get_set_of_ne p mem q q_mem (Ne.symm same) s x
  · rw [puts] at put
    obtain rfl := Except.ok.inj put
    rw [if_neg (Ne.symm (others p mem))]
    rfl

/-- What fields make of a record, they make of each part. -/
theorem Fills.settles (apart : Apart slots) (made : shape.fields = slots.map Slot.field)
    {fields : List (String × Json)} {s u : σ} (fills : Fills shape fields s u)
    (keys : (fields.map Prod.fst).Nodup) {p : Slot σ} (mem : p ∈ slots) :
    p.Settles fields s u := by
  induction fills with
  | nil s => rfl
  | @cons field fields s t u put rest ih =>
    obtain ⟨key, v⟩ := field
    obtain ⟨fresh, others⟩ := List.nodup_cons.mp keys
    have first := settles_putField apart made put mem
    have behind := ih others
    rw [Slot.Settles, Table.get?_cons] at first ⊢
    rw [Slot.Settles] at behind
    by_cases same : key = p.name
    · -- no field behind has the name again
      obtain rfl := same
      rw [Table.get?_eq_none fresh] at behind
      rw [if_pos rfl] at first ⊢
      exact first.trans (congrArg Except.ok behind.symm)
    · rw [if_neg same] at first ⊢
      cases given : Table.get? p.name fields with
      | some w =>
        rw [given] at behind
        exact behind
      | none =>
        rw [given] at behind
        exact behind.trans first

/-- No field is refused if each of them decodes. -/
theorem exists_fills (made : shape.fields = slots.map Slot.field)
    {fields : List (String × Json)}
    (decoded : ∀ p ∈ slots, ∀ v, (p.name, v) ∈ fields → ∃ x, p.decoder v = .ok x) (s : σ) :
    ∃ u, Fills shape fields s u := by
  induction fields generalizing s with
  | nil => exact ⟨s, .nil s⟩
  | cons field fields ih =>
    have behind : ∀ p ∈ slots, ∀ v, (p.name, v) ∈ fields → ∃ x, p.decoder v = .ok x := by
      intro p mem v given
      exact decoded p mem v (List.mem_cons_of_mem field given)
    obtain ⟨key, v⟩ := field
    obtain ⟨q, mem, rfl, puts⟩ | ⟨-, puts⟩ := putField_cases made s (key, v)
    · obtain ⟨x, decodes⟩ := decoded q mem v List.mem_cons_self
      obtain ⟨u, fills⟩ := ih behind (q.set s x)
      exact ⟨u, .cons (puts.trans (Slot.put_eq_ok_iff.mpr ⟨x, decodes, rfl⟩)) fills⟩
    · obtain ⟨u, fills⟩ := ih behind s
      exact ⟨u, .cons puts fills⟩

/-- A field is missing if it may not be left out. -/
theorem missing?_eq_none_iff (made : shape.fields = slots.map Slot.field)
    {fields : List (String × Json)} :
    shape.missing? (fields.map Prod.fst) = none ↔
      ∀ p ∈ slots, p.absent = .refused → (Table.get? p.name fields).isSome := by
  rw [Shape.missing?, Option.map_eq_none_iff, made, List.find?_eq_none, List.forall_mem_map]
  refine forall₂_congr fun p mem => ?_
  rw [Table.isSome_get?_iff]
  simp [Slot.field, valueField]

/-- A record comes out exactly if each part of it does. -/
theorem fromFields_eq_ok_iff_reads (apart : Apart slots)
    (made : shape.fields = slots.map Slot.field) {fields : List (String × Json)}
    (keys : (fields.map Prod.fst).Nodup) {u : σ} :
    fromFields shape fields = .ok u ↔ ∀ p ∈ slots, p.Reads shape.start fields u := by
  simp only [fromFields_eq_ok_iff, Slot.reads_iff, forall₂_and, missing?_eq_none_iff made]
  refine and_congr_left fun given => ?_
  constructor
  · intro fills p mem
    exact fills.settles apart made keys mem
  · intro settled
    have decoded : ∀ p ∈ slots, ∀ v, (p.name, v) ∈ fields → ∃ x, p.decoder v = .ok x := by
      intro p mem v field
      have part := settled p mem
      rw [Slot.Settles, Table.get?_of_mem keys field] at part
      exact ⟨p.get u, part⟩
    obtain ⟨t, fills⟩ := exists_fills made decoded shape.start
    have same : u = t := by
      apply apart.whole
      intro p mem
      exact (settled p mem).get_eq (fills.settles apart made keys mem)
    exact same ▸ fills

end Record

/-! ### What decoders take -/

section Decoders

variable {α : Type} {v : Json}

theorem asText_eq_ok_iff {text : String} : asText v = .ok text ↔ v = .str text := by
  cases v <;> simp [asText]

theorem asFlag_eq_ok_iff {b : Bool} : asFlag v = .ok b ↔ v = .bool b := by
  cases v <;> simp [asFlag]

theorem asOptional_of_ne_null {inner : Decoder α} (present : v ≠ .null) :
    asOptional inner v = (inner v).map some := by
  rw [asOptional]
  exact present

theorem asOptional_eq_ok_none_iff {inner : Decoder α} :
    asOptional inner v = .ok none ↔ v = .null := by
  by_cases absent : v = .null
  · exact iff_of_true (absent ▸ rfl) absent
  · rw [asOptional_of_ne_null absent]
    refine iff_of_false ?_ absent
    cases inner v <;> nofun

theorem asOptional_eq_ok_some_iff {inner : Decoder α} {x : α} :
    asOptional inner v = .ok (some x) ↔ v ≠ .null ∧ inner v = .ok x := by
  by_cases absent : v = .null
  · subst absent
    exact iff_of_false nofun fun taken => taken.1 rfl
  · rw [asOptional_of_ne_null absent, and_iff_right absent]
    cases inner v with
    | error m => exact iff_of_false nofun nofun
    | ok y =>
      change Except.ok (some y) = .ok (some x) ↔ _
      rw [Except.ok.injEq, Except.ok.injEq, Option.some.injEq]

theorem mapM_eq_ok_iff {item : Decoder α} {items : List Json} {xs : List α} :
    items.mapM item = .ok xs ↔ List.Forall₂ (fun entry x => item entry = .ok x) items xs := by
  induction items generalizing xs with
  | nil =>
    rw [List.mapM_nil, List.forall₂_nil_left_iff]
    exact ⟨fun taken => (Except.ok.inj taken).symm, fun none => none ▸ rfl⟩
  | cons entry items ih =>
    rw [List.mapM_cons, List.forall₂_cons_left_iff]
    constructor
    · intro taken
      cases first : item entry with
      | error m =>
        rw [first] at taken
        nomatch taken
      | ok x =>
        rw [first, ok_bind] at taken
        cases behind : items.mapM item with
        | error m =>
          rw [behind] at taken
          nomatch taken
        | ok others =>
          rw [behind] at taken
          obtain rfl := Except.ok.inj taken
          exact ⟨x, others, rfl, ih.mp behind, rfl⟩
    · rintro ⟨x, others, first, behind, rfl⟩
      rw [first, ih.mpr behind]
      rfl

theorem asList_eq_ok_iff {item : Decoder α} {xs : List α} :
    asList item v = .ok xs ↔
      ∃ items, v = .arr items ∧ List.Forall₂ (fun entry x => item entry = .ok x) items xs := by
  constructor
  · intro taken
    cases v with
    | arr items => exact ⟨items, rfl, mapM_eq_ok_iff.mp taken⟩
    | _ => cases taken
  · rintro ⟨items, rfl, each⟩
    exact mapM_eq_ok_iff.mpr each

end Decoders

/-! ### What objects have -/

/-- An object, with every key once. -/
def IsObject (v : Json) : Prop := ∃ fields, v = .obj fields ∧ (fields.map Prod.fst).Nodup

/-- Things can be described in order if each of them can. -/
theorem exists_forall₂_iff {α β : Type} {describes : α → β → Prop} {items : List α} :
    (∃ xs, List.Forall₂ describes items xs) ↔ ∀ item ∈ items, ∃ x, describes item x := by
  induction items with
  | nil => exact iff_of_true ⟨[], .nil⟩ nofun
  | cons item items ih =>
    rw [List.forall_mem_cons, ← ih]
    constructor
    · rintro ⟨xs, each⟩
      cases each with
      | cons first behind => exact ⟨⟨_, first⟩, ⟨_, behind⟩⟩
    · rintro ⟨⟨x, first⟩, ⟨xs, behind⟩⟩
      exact ⟨x :: xs, .cons first behind⟩

section Fields

variable (v : Json) (key : String)

/-- The field is not there, or `null`. -/
def Lacks : Prop := v.field? key = none ∨ v.field? key = some .null

def HasText (text : String) : Prop := v.field? key = some (.str text)

/-- A field with a text, or none. -/
def MayHaveText : Option String → Prop
  | some text => v.HasText key text
  | none => v.Lacks key

/-- A field with any value, or none. -/
def MayHave : Option Json → Prop
  | some value => v.field? key = some value ∧ value ≠ .null
  | none => v.Lacks key

/-- A field with a truth value, or none for what is false. -/
def HasFlag (b : Bool) : Prop :=
  v.field? key = some (.bool b) ∨ v.field? key = none ∧ b = false

/-- A field with a list of things that are described in order, or none for the empty list. -/
def HasEach {α : Type} (describes : Json → α → Prop) (xs : List α) : Prop :=
  (∃ items, v.field? key = some (.arr items) ∧ List.Forall₂ describes items xs) ∨
    v.field? key = none ∧ xs = []

/-- The field is not there, `null` or a text. -/
def MayBeText : Prop := v.Lacks key ∨ ∃ text, v.HasText key text

/-- The field is not there, or a truth value. -/
def MayBeFlag : Prop := v.field? key = none ∨ ∃ b, v.field? key = some (.bool b)

variable {v key} in
/-- Items that are described one way are described another way if each of them is. -/
theorem HasEach.imp {α : Type} {describes describes' : Json → α → Prop} {xs : List α}
    (has : v.HasEach key describes xs)
    (also : ∀ items, v.field? key = some (.arr items) →
      ∀ item ∈ items, ∀ x, describes item x → describes' item x) :
    v.HasEach key describes' xs := by
  obtain ⟨items, field, each⟩ | lacks := has
  · refine .inl ⟨items, field, ?_⟩
    have both := (List.forall₂_and_left _ _).mpr ⟨also items field, each⟩
    exact both.imp fun item x described => described.1 x described.2
  · exact .inr lacks

variable {v key} in
theorem Lacks.not_hasText (lacks : v.Lacks key) {text : String} : ¬ v.HasText key text := by
  intro has
  obtain absent | null := lacks
  · nomatch absent.symm.trans has
  · nomatch null.symm.trans has

theorem exists_mayHaveText : (∃ text, v.MayHaveText key text) ↔ v.MayBeText key := by
  constructor
  · rintro ⟨text, has⟩
    cases text with
    | none => exact .inl has
    | some text => exact .inr ⟨text, has⟩
  · rintro (lacks | ⟨text, has⟩)
    · exact ⟨none, lacks⟩
    · exact ⟨some text, has⟩

variable {v key} in
theorem MayHaveText.mayBe {text : Option String} (has : v.MayHaveText key text) :
    v.MayBeText key :=
  (v.exists_mayHaveText key).mp ⟨text, has⟩

theorem exists_mayHave : ∃ value, v.MayHave key value := by
  cases field : v.field? key with
  | none => exact ⟨none, .inl field⟩
  | some value =>
    by_cases null : value = .null
    · exact ⟨none, .inr (null ▸ field)⟩
    · exact ⟨some value, field, null⟩

theorem exists_hasFlag : (∃ b, v.HasFlag key b) ↔ v.MayBeFlag key := by
  constructor
  · rintro ⟨b, has | ⟨lacks, -⟩⟩
    · exact .inr ⟨b, has⟩
    · exact .inl lacks
  · rintro (lacks | ⟨b, has⟩)
    · exact ⟨false, .inr ⟨lacks, rfl⟩⟩
    · exact ⟨b, .inl has⟩

variable {v key} in
theorem HasFlag.mayBe {b : Bool} (has : v.HasFlag key b) : v.MayBeFlag key :=
  (v.exists_hasFlag key).mp ⟨b, has⟩

theorem exists_hasEach {α : Type} (describes : Json → α → Prop) :
    (∃ xs, v.HasEach key describes xs) ↔ v.field? key = none ∨
      ∃ items, v.field? key = some (.arr items) ∧ ∀ item ∈ items, ∃ x, describes item x := by
  constructor
  · rintro ⟨xs, ⟨items, has, each⟩ | ⟨lacks, -⟩⟩
    · exact .inr ⟨items, has, exists_forall₂_iff.mp ⟨xs, each⟩⟩
    · exact .inl lacks
  · rintro (lacks | ⟨items, has, each⟩)
    · exact ⟨[], .inr ⟨lacks, rfl⟩⟩
    · obtain ⟨xs, each⟩ := exists_forall₂_iff.mpr each
      exact ⟨xs, .inl ⟨items, has, each⟩⟩

end Fields

/-! ### Slots for what objects have -/

namespace Slot

variable {σ α : Type} {name : String} {start u : σ} {fields : List (String × Json)}

/-- A text that has to be given. -/
def text (name : String) (get : σ → String) (set : σ → String → σ) : Slot σ :=
  ⟨name, .refused, asText, get, set⟩

/-- A text that may be left out, or `null`. -/
def mayHaveText (name : String) (absent : Absence) (get : σ → Option String)
    (set : σ → Option String → σ) : Slot σ :=
  ⟨name, absent, asOptional asText, get, set⟩

/-- Any value, which may be left out, or `null`. -/
def mayHave (name : String) (get : σ → Option Json) (set : σ → Option Json → σ) : Slot σ :=
  ⟨name, .unnamed, asOptional .ok, get, set⟩

/-- A truth value that may be left out. -/
def flag (name : String) (get : σ → Bool) (set : σ → Bool → σ) : Slot σ :=
  ⟨name, .allowed, asFlag, get, set⟩

/-- A list that may be left out. -/
def each (name : String) (item : Decoder α) (get : σ → List α) (set : σ → List α → σ) : Slot σ :=
  ⟨name, .allowed, asList item, get, set⟩

theorem reads_text {get : σ → String} {set : σ → String → σ} :
    (text name get set).Reads start fields u ↔ (Json.obj fields).HasText name (get u) := by
  change (match Table.get? name fields with | some v => _ | none => _) ↔
    Table.get? name fields = some (.str (get u))
  cases Table.get? name fields with
  | none => exact iff_of_false (fun missing => missing.1 rfl) nofun
  | some v =>
    rw [Option.some.injEq]
    exact asText_eq_ok_iff

/-- A part that is optional is the value, or nothing for a field that lacks. -/
theorem reads_asOptional {absent : Absence} {inner : Decoder α} {get : σ → Option α}
    {set : σ → Option α → σ} (optional : absent ≠ .refused) (blank : get start = none) :
    Slot.Reads ⟨name, absent, asOptional inner, get, set⟩ start fields u ↔
      match get u with
      | none => (Json.obj fields).Lacks name
      | some x => ∃ v, (Json.obj fields).field? name = some v ∧ v ≠ .null ∧ inner v = .ok x := by
  simp only [Reads, Lacks, field?]
  cases Table.get? name fields with
  | none =>
    dsimp only
    rw [blank, and_iff_right optional]
    cases get u with
    | none => exact iff_of_true rfl (.inl rfl)
    | some x => exact iff_of_false nofun (by rintro ⟨v, given, -⟩; nomatch given)
  | some v =>
    dsimp only
    cases get u with
    | none =>
      rw [asOptional_eq_ok_none_iff, Option.some.injEq]
      exact ⟨.inr, fun lacks => lacks.resolve_left nofun⟩
    | some x =>
      rw [asOptional_eq_ok_some_iff]
      constructor
      · intro taken
        exact ⟨v, rfl, taken⟩
      · rintro ⟨w, same, taken⟩
        exact Option.some.inj same ▸ taken

theorem reads_mayHaveText {absent : Absence} {get : σ → Option String}
    {set : σ → Option String → σ} (optional : absent ≠ .refused) (blank : get start = none) :
    (mayHaveText name absent get set).Reads start fields u ↔
      (Json.obj fields).MayHaveText name (get u) := by
  rw [mayHaveText, reads_asOptional optional blank]
  cases get u with
  | none => rfl
  | some x =>
    constructor
    · rintro ⟨v, given, -, taken⟩
      exact given.trans (congrArg some (asText_eq_ok_iff.mp taken))
    · intro given
      exact ⟨.str x, given, nofun, rfl⟩

theorem reads_mayHave {get : σ → Option Json} {set : σ → Option Json → σ}
    (blank : get start = none) :
    (mayHave name get set).Reads start fields u ↔ (Json.obj fields).MayHave name (get u) := by
  have optional : Absence.unnamed ≠ .refused := by decide
  rw [mayHave, reads_asOptional optional blank]
  cases get u with
  | none => rfl
  | some x =>
    constructor
    · rintro ⟨v, given, present, taken⟩
      obtain rfl := Except.ok.inj taken
      exact ⟨given, present⟩
    · rintro ⟨given, present⟩
      exact ⟨x, given, present, rfl⟩

theorem reads_flag {get : σ → Bool} {set : σ → Bool → σ} (off : get start = false) :
    (flag name get set).Reads start fields u ↔ (Json.obj fields).HasFlag name (get u) := by
  simp only [Reads, flag, HasFlag, field?]
  cases Table.get? name fields with
  | none =>
    dsimp only
    rw [off, and_iff_right nofun]
    exact ⟨fun unchanged => .inr ⟨rfl, unchanged⟩, fun given => (given.resolve_left nofun).2⟩
  | some v =>
    dsimp only
    rw [asFlag_eq_ok_iff, Option.some.injEq]
    exact ⟨.inl, fun given => given.resolve_right fun absent => nomatch absent.1⟩

theorem reads_each {item : Decoder α} {get : σ → List α} {set : σ → List α → σ}
    (empty : get start = []) :
    (each name item get set).Reads start fields u ↔
      (Json.obj fields).HasEach name (fun entry x => item entry = .ok x) (get u) := by
  simp only [Reads, each, HasEach, field?]
  cases Table.get? name fields with
  | none =>
    dsimp only
    rw [empty, and_iff_right nofun]
    constructor
    · intro unchanged
      exact .inr ⟨rfl, unchanged⟩
    · rintro (⟨items, given, -⟩ | ⟨-, none⟩)
      · nomatch given
      · exact none
  | some v =>
    dsimp only
    rw [asList_eq_ok_iff]
    constructor
    · rintro ⟨items, rfl, described⟩
      exact .inl ⟨items, rfl, described⟩
    · rintro (⟨items, given, described⟩ | ⟨absent, -⟩)
      · exact ⟨items, Option.some.inj given, described⟩
      · nomatch absent

end Slot

end Json
end Rehearsal
