import Rehearsal.Json.Typed
import Rehearsal.Proofs.Json.Decode

/-!
# What readers yield

A property that holds of a record before any field is read, and that every field keeps, holds of
each record that is read, from an object with its fields in any order and from a list alike. A
field keeps a property if it does so for whatever its own reader yields.
-/

namespace Rehearsal.Json

/-- Whatever a reader yields has a property. -/
def Yields {α : Type} (reader : Reader α) (P : α → Prop) : Prop :=
  ∀ cs x rest, reader cs = .ok (x, rest) → P x

/-- Reading a field keeps a property of what has been read. -/
def Keeps {σ : Type} (put : Put σ) (P : σ → Prop) : Prop :=
  ∀ depth s, P s → Yields (put depth s) P

section Yields

variable {α : Type} {P : α → Prop} {x : α}

theorem wrongType_ne_ok (wanted : String) (cs rest : List Char) :
    wrongType wanted cs ≠ .ok (x, rest) := by
  intro read
  rw [wrongType.eq_def] at read
  dsimp only at read
  split at read
  case h_1 | h_2 | h_3 =>
    obtain ⟨_, -, read⟩ := bind_eq_ok_iff.mp read
    nomatch read
  case h_4 =>
    obtain ⟨_, -, read⟩ := bind_eq_ok_iff.mp read
    nomatch read
  case h_5 | h_6 => nomatch read
  case h_7 =>
    split at read
    · obtain ⟨_, -, read⟩ := bind_eq_ok_iff.mp read
      nomatch read
    · nomatch read
  case h_8 => nomatch read

theorem yields_textAs {wanted : String} {make : String → Except Mismatch α}
    (made : ∀ s x, make s = .ok x → P x) : Yields (textAs wanted make) P := by
  intro cs x rest read
  rw [textAs] at read
  split at read
  case h_1 => nomatch read
  case h_2 =>
    obtain ⟨⟨s, more⟩, -, read⟩ := bind_eq_ok_iff.mp read
    dsimp only at read
    split at read
    case h_1 y eq =>
      obtain ⟨rfl, -⟩ := Prod.mk.inj (Except.ok.inj read)
      exact made s y eq
    case h_2 => nomatch read
  case h_3 => exact absurd read (wrongType_ne_ok _ _ _)

theorem eq_ok_of_mapError {ε δ : Type} {result : Except ε α} {f : ε → δ}
    (read : result.mapError f = .ok x) : result = .ok x := by
  cases result with
  | error m => nomatch read
  | ok y => exact congrArg Except.ok (Except.ok.inj read)

/-- What holds of all that a reader yields holds of a document that it reads. -/
theorem Yields.document {reader : Reader α} (h : Yields reader P) {text : List Char}
    (read : Json.document reader text = .ok x) : P x := by
  obtain ⟨⟨y, rest⟩, taken, read⟩ := bind_eq_ok_iff.mp (eq_ok_of_mapError read)
  dsimp only at read
  split at read
  case h_1 =>
    obtain rfl := Except.ok.inj read
    exact h text y rest taken
  case h_2 => nomatch read

end Yields

section Records

variable {σ : Type} {P : σ → Prop} {shape : Shape σ (Put σ)}

theorem keeps_textField {α : Type} {Q : α → Prop} {name : String} {absent : Absence}
    {reader : (depth : Nat) → Reader α} {store : σ → α → σ}
    (yields : ∀ depth, Yields (reader depth) Q) (stored : ∀ s x, P s → Q x → P (store s x)) :
    Keeps (textField name absent reader store).put P := by
  intro depth s holds cs t rest read
  obtain ⟨⟨x, more⟩, taken, read⟩ := bind_eq_ok_iff.mp read
  obtain ⟨rfl, -⟩ := Prod.mk.inj (Except.ok.inj read)
  exact stored s x holds (yields depth cs x more taken)

theorem yields_fieldsInOrder {depth : Nat} {fs : List (Field (Put σ))}
    (keeps : ∀ f ∈ fs, Keeps f.put P) (index : Nat) {s : σ} (holds : P s) :
    Yields (fieldsInOrder shape depth fs index s) P := by
  induction fs generalizing index s with
  | nil =>
    intro cs t rest read
    obtain ⟨_, -, read⟩ := bind_eq_ok_iff.mp read
    obtain ⟨rfl, -⟩ := Prod.mk.inj (Except.ok.inj read)
    exact holds
  | cons f fs ih =>
    intro cs t rest read
    obtain ⟨next, -, read⟩ := bind_eq_ok_iff.mp read
    cases next with
    | more cs =>
      obtain ⟨⟨u, more⟩, put, read⟩ := bind_eq_ok_iff.mp read
      have kept : P u := keeps f List.mem_cons_self depth s holds cs u more put
      exact ih (fun g mem => keeps g (List.mem_cons_of_mem f mem)) (index + 1) kept more t rest read
    | finished more =>
      dsimp only at read
      split at read
      case h_1 =>
        obtain ⟨rfl, -⟩ := Prod.mk.inj (Except.ok.inj read)
        exact holds
      case h_2 => nomatch read

theorem yields_members {member : σ → String → Reader σ}
    (kept : ∀ s key, P s → Yields (member s key) P) (fuel : Nat) (first : Bool) {s : σ}
    (holds : P s) : Yields (members member fuel first s) P := by
  induction fuel generalizing first s with
  | zero =>
    intro cs t rest read
    nomatch read
  | succ fuel ih =>
    intro cs t rest read
    obtain ⟨next, -, read⟩ := bind_eq_ok_iff.mp read
    cases next with
    | finished more =>
      obtain ⟨rfl, -⟩ := Prod.mk.inj (Except.ok.inj read)
      exact holds
    | more cs =>
      obtain ⟨⟨key, behind⟩, -, read⟩ := bind_eq_ok_iff.mp read
      obtain ⟨⟨u, more⟩, taken, read⟩ := bind_eq_ok_iff.mp read
      exact ih false (kept s key holds behind u more taken) more t rest read

theorem yields_namedField {depth : Nat} (keeps : ∀ f ∈ shape.fields, Keeps f.put P)
    (read : σ × List String) (key : String) (holds : P read.1) :
    Yields (namedField shape depth read key) fun read => P read.1 := by
  intro cs t rest taken
  rw [namedField] at taken
  cases known : shape.field? key with
  | none =>
    rw [known] at taken
    obtain ⟨_, -, taken⟩ := bind_eq_ok_iff.mp taken
    obtain ⟨_, -, taken⟩ := bind_eq_ok_iff.mp taken
    obtain ⟨rfl, -⟩ := Prod.mk.inj (Except.ok.inj taken)
    exact holds
  | some f =>
    have mem : f ∈ shape.fields := List.mem_of_find?_eq_some known
    rw [known] at taken
    dsimp only at taken
    split at taken
    case isTrue => split at taken <;> nomatch taken
    case isFalse =>
      obtain ⟨behind, -, taken⟩ := bind_eq_ok_iff.mp taken
      obtain ⟨⟨u, more⟩, put, taken⟩ := bind_eq_ok_iff.mp taken
      obtain ⟨rfl, -⟩ := Prod.mk.inj (Except.ok.inj taken)
      exact keeps f mem depth read.1 holds behind u more put

/-- A record has what its start has, if no field takes it away. -/
theorem yields_record (start : P shape.start) (keeps : ∀ f ∈ shape.fields, Keeps f.put P)
    (depth : Nat) : Yields (record shape depth) P := by
  intro cs t rest read
  rw [record] at read
  split at read
  case h_1 => nomatch read
  case h_2 =>
    cases depth with
    | zero => nomatch read
    | succ depth => exact yields_fieldsInOrder keeps 0 start _ _ _ read
  case h_3 =>
    cases depth with
    | zero => nomatch read
    | succ depth =>
      obtain ⟨⟨⟨u, seen⟩, more⟩, gathered, read⟩ := bind_eq_ok_iff.mp read
      have holds : P u := yields_members (yields_namedField keeps) _ true start _ _ _ gathered
      dsimp only at read
      split at read
      · nomatch read
      · obtain ⟨rfl, -⟩ := Prod.mk.inj (Except.ok.inj read)
        exact holds
  case h_4 => exact absurd read (wrongType_ne_ok _ _ _)

end Records

end Rehearsal.Json
