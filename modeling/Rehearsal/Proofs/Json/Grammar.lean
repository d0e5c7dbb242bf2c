import Rehearsal.Proofs.Json.Decode
import Rehearsal.Proofs.Json.Text

/-!
# The grammar of JSON texts

What a JSON text is, apart from how it is read. A production says what the front of a text
stands for and which text is left behind it: `Chars` has the characters of a string,
`Sequence` what stands between the brackets of a list or an object, `Value` all values in
which so many lists and objects are open at once, and `Document` the whole texts. Of numbers
`NumberForm` has the form; what a number of this form is taken for, if it is not too large, is
left to the number reader.

The characters of strings are the first that are read by the grammar.
-/

namespace Rehearsal.Json

open Text

/-! ### Productions -/

/-- A production: a text, what the front of it stands for, and what is left behind that. -/
abbrev Production (α : Type) := List Char → α → List Char → Prop

/-- A text that has nothing but space in front of another one. -/
def Space (text rest : List Char) : Prop :=
  ∃ space, (∀ c ∈ space, isSpace c = true) ∧ text = space ++ rest

/-- The letters that stand for characters behind a backslash. -/
def shortForms : List (Char × Char) :=
  [('"', '"'), ('\\', '\\'), ('/', '/'), ('b', '\x08'), ('f', '\x0c'), ('n', '\n'), ('r', '\r'),
    ('t', '\t')]

/-- The number that four hexadecimal digits stand for. -/
inductive CodeUnit : Production Nat
  | digits {a b c d : Char} {w x y z : Nat} (first : hexValue? a = some w)
      (second : hexValue? b = some x) (third : hexValue? c = some y)
      (fourth : hexValue? d = some z) (rest : List Char) :
      CodeUnit (a :: b :: c :: d :: rest) (((w * 16 + x) * 16 + y) * 16 + z) rest

/-- What stands behind a backslash: a letter, or `u` and the number of a character, which may
be that of a surrogate only in front of one for the other half. -/
inductive Escape : Production Char
  | letter {l c : Char} (short : (l, c) ∈ shortForms) (rest : List Char) :
      Escape (l :: rest) c rest
  | unit {text rest : List Char} {n : Nat} (number : CodeUnit text n rest)
      (alone : n < 0xd800 ∨ 0xdfff < n) : Escape ('u' :: text) (Char.ofNat n) rest
  | pair {text middle rest : List Char} {n m : Nat}
      (leading : CodeUnit text n ('\\' :: 'u' :: middle)) (high : 0xd800 ≤ n ∧ n ≤ 0xdbff)
      (trailing : CodeUnit middle m rest) (low : 0xdc00 ≤ m ∧ m ≤ 0xdfff) :
      Escape ('u' :: text)
        (Char.ofNat ((n - 0xd800) * 0x400 + (m - 0xdc00) + 0x10000)) rest

/-- The characters of a string, behind its opening quote, with the closing one. -/
inductive Chars : Production (List Char)
  | quote (rest : List Char) : Chars ('"' :: rest) [] rest
  | plain {c : Char} {text s rest : List Char} (unquoted : c ≠ '"') (unescaped : c ≠ '\\')
      (printed : 0x20 ≤ c.toNat) (more : Chars text s rest) : Chars (c :: text) (c :: s) rest
  | escaped {c : Char} {text middle s rest : List Char} (first : Escape text c middle)
      (more : Chars middle s rest) : Chars ('\\' :: text) (c :: s) rest

/-- Digits, at least one. -/
def Digits (ds : List Char) : Prop := ds ≠ [] ∧ ∀ c ∈ ds, c.isDigit = true

/-- The fraction of a number, if it has one. -/
inductive Fraction : List Char → Prop
  | none : Fraction []
  | digits {ds : List Char} (h : Digits ds) : Fraction ('.' :: ds)

/-- The exponent of a number, if it has one. -/
inductive Exponent : List Char → Prop
  | none : Exponent []
  | digits {letter : Char} {sign ds : List Char} (marked : letter = 'e' ∨ letter = 'E')
      (signed : sign = [] ∨ sign = ['+'] ∨ sign = ['-']) (h : Digits ds) :
      Exponent (letter :: (sign ++ ds))

/-- The form of numbers. Only zero itself begins with the digit zero. -/
inductive NumberForm : List Char → Prop
  | parts {sign whole point power : List Char} (signed : sign = [] ∨ sign = ['-'])
      (digits : Digits whole) (zero : whole.head? = some '0' → whole = ['0'])
      (fraction : Fraction point) (exponent : Exponent power) :
      NumberForm (sign ++ (whole ++ (point ++ power)))

section Items

variable {α : Type}

/-- What stands behind an item: a comma and an item any number of times, and then the closing
bracket. -/
inductive Tail (item : Production α) (last : Char) : Production (List α)
  | close {text rest : List Char} (space : Space text (last :: rest)) :
      Tail item last text [] rest
  | more {text next middle rest : List Char} {x : α} {xs : List α}
      (comma : Space text (',' :: next)) (first : item next x middle)
      (others : Tail item last middle xs rest) : Tail item last text (x :: xs) rest

/-- What stands behind an opening bracket: nothing but space, or an item and what stands
behind it. -/
inductive Sequence (item : Production α) (last : Char) : Production (List α)
  | empty {text rest : List Char} (space : Space text (last :: rest)) :
      Sequence item last text [] rest
  | items {text middle rest : List Char} {x : α} {xs : List α} (first : item text x middle)
      (others : Tail item last middle xs rest) : Sequence item last text (x :: xs) rest

end Items

/-- An item of a list: a value behind space. -/
inductive Item (value : Production Json) : Production Json
  | value {text middle rest : List Char} {v : Json} (space : Space text middle)
      (h : value middle v rest) : Item value text v rest

/-- A member of an object: a string, a colon and a value. -/
inductive Member (value : Production Json) : Production (String × Json)
  | field {text name middle behind rest : List Char} {key : String} {v : Json}
      (space : Space text ('"' :: name)) (chars : Chars name key.toList middle)
      (colon : Space middle (':' :: behind)) (h : Item value behind v rest) :
      Member value text (key, v) rest

/-- Values that are neither lists nor objects. A number is what its text is taken for. -/
inductive Scalar : Production Json
  | nullWord (rest : List Char) : Scalar ('n' :: 'u' :: 'l' :: 'l' :: rest) .null rest
  | trueWord (rest : List Char) : Scalar ('t' :: 'r' :: 'u' :: 'e' :: rest) (.bool true) rest
  | falseWord (rest : List Char) :
      Scalar ('f' :: 'a' :: 'l' :: 's' :: 'e' :: rest) (.bool false) rest
  | string {text rest : List Char} {s : String} (chars : Chars text s.toList rest) :
      Scalar ('"' :: text) (.str s) rest
  | number {c : Char} {text rest : List Char} {v : Json} (form : NumberForm (c :: text))
      (taken : Json.number c text = .ok (v, [])) : Scalar (c :: (text ++ rest)) v rest

/-- Values over the values of lists and objects in them. Of members with one key the last one
counts. -/
inductive Nested (value : Production Json) : Production Json
  | scalar {text rest : List Char} {v : Json} (h : Scalar text v rest) : Nested value text v rest
  | list {text rest : List Char} {vs : List Json} (h : Sequence (Item value) ']' text vs rest) :
      Nested value ('[' :: text) (.arr vs) rest
  | object {text rest : List Char} {fields : List (String × Json)}
      (h : Sequence (Member value) '\x7d' text fields rest) :
      Nested value ('\x7b' :: text) (.object fields) rest

/-- Values in which at most so many lists and objects are open at once. -/
def Value : Nat → Production Json
  | 0 => Scalar
  | depth + 1 => Nested (Value depth)

/-- The texts of values, with nothing but space around the value, in which at most 127 lists
and objects are open at once and no number is too large. -/
def Document (text : List Char) (v : Json) : Prop :=
  ∃ rest, Item (Value 127) text v rest ∧ Space rest []

/-! ### Characters of strings -/

section Strings

variable {cs rest text s : List Char} {c : Char} {n fuel : Nat}

theorem hexUnit_eq_ok_iff : hexUnit cs = .ok (n, rest) ↔ CodeUnit cs n rest := by
  constructor
  · intro h
    unfold hexUnit at h
    split at h
    · split at h
      next first second third fourth =>
        obtain ⟨rfl, rfl⟩ := Prod.mk.inj (Except.ok.inj h)
        exact .digits first second third fourth _
      · nomatch h
    · split at h <;> nomatch h
  · rintro ⟨first, second, third, fourth, rest⟩
    simp only [hexUnit, first, second, third, fourth]

/-- A character by its number is read as an escape. -/
theorem unicodeEscape_eq_ok_iff :
    unicodeEscape cs = .ok (c, rest) ↔ Escape ('u' :: cs) c rest := by
  constructor
  · intro h
    rw [unicodeEscape] at h
    obtain ⟨⟨n, middle⟩, leading, h⟩ := bind_eq_ok_iff.mp h
    have leading := hexUnit_eq_ok_iff.mp leading
    simp only [Bool.and_eq_true, Bool.or_eq_true, decide_eq_true_eq] at h
    split at h
    · cases h
    next lowless =>
      split at h
      next alone =>
        obtain ⟨rfl, rfl⟩ := Prod.mk.inj (Except.ok.inj h)
        exact .unit leading (by omega)
      next high =>
        split at h
        · cases h
        · cases h
        next middle =>
          obtain ⟨⟨m, rest⟩, trailing, h⟩ := bind_eq_ok_iff.mp h
          have trailing := hexUnit_eq_ok_iff.mp trailing
          split at h
          next low =>
            obtain ⟨rfl, rfl⟩ := Prod.mk.inj (Except.ok.inj h)
            exact .pair leading (by omega) trailing low
          · cases h
        · cases h
        · cases h
  · intro h
    cases h with
    | letter short => simp [shortForms] at short
    | @unit _ _ n number alone =>
      have lowless : ¬ (0xdc00 ≤ n ∧ n ≤ 0xdfff) := by omega
      have alone : n < 0xd800 ∨ 0xdbff < n := by omega
      rw [unicodeEscape, hexUnit_eq_ok_iff.mpr number, ok_bind]
      simp only [Bool.and_eq_true, Bool.or_eq_true, decide_eq_true_eq, lowless, alone, if_false,
        if_true]
      rfl
    | @pair _ middle _ n m leading high trailing low =>
      have lowless : ¬ (0xdc00 ≤ n ∧ n ≤ 0xdfff) := by omega
      have paired : ¬ (n < 0xd800 ∨ 0xdbff < n) := by omega
      rw [unicodeEscape, hexUnit_eq_ok_iff.mpr leading, ok_bind]
      simp only [Bool.and_eq_true, Bool.or_eq_true, decide_eq_true_eq, lowless, paired, if_false]
      rw [hexUnit_eq_ok_iff.mpr trailing, ok_bind]
      simp only [low, and_self, if_true]
      rfl

theorem escape_eq_ok_iff : escape unicodeEscape cs = .ok (c, rest) ↔ Escape cs c rest := by
  constructor
  · intro h
    unfold escape at h
    split at h
    · nomatch h
    all_goals first
      | exact unicodeEscape_eq_ok_iff.mp h
      | obtain ⟨rfl, rfl⟩ := Prod.mk.inj (Except.ok.inj h)
        exact .letter (by decide) _
      | nomatch h
  · intro h
    cases h with
    | letter short =>
      simp only [shortForms, List.mem_cons, Prod.mk.injEq, List.not_mem_nil, or_false] at short
      obtain ⟨rfl, rfl⟩ | ⟨rfl, rfl⟩ | ⟨rfl, rfl⟩ | ⟨rfl, rfl⟩ | ⟨rfl, rfl⟩ | ⟨rfl, rfl⟩ |
        ⟨rfl, rfl⟩ | ⟨rfl, rfl⟩ := short <;> rfl
    | unit number alone => exact unicodeEscape_eq_ok_iff.mpr (.unit number alone)
    | pair leading high trailing low =>
      exact unicodeEscape_eq_ok_iff.mpr (.pair leading high trailing low)

theorem CodeUnit.length_eq (h : CodeUnit text n rest) : text.length = rest.length + 4 := by
  cases h
  rfl

theorem Escape.length_lt (h : Escape text c rest) : rest.length < text.length := by
  cases h with
  | letter => exact Nat.lt_succ_self _
  | unit number =>
    have := number.length_eq
    rw [List.length_cons]
    omega
  | pair leading _ trailing =>
    have := leading.length_eq
    have := trailing.length_eq
    simp only [List.length_cons] at *
    omega

theorem Chars.length_lt (h : Chars text s rest) : rest.length < text.length := by
  induction h with
  | quote => exact Nat.lt_succ_self _
  | plain _ _ _ _ ih => exact Nat.lt_succ_of_lt ih
  | escaped first _ ih => exact Nat.lt_succ_of_lt (Nat.lt_trans ih first.length_lt)

/-- With fuel for all of the text, its characters are read up to the closing quote. -/
theorem chars_eq_ok_iff (enough : cs.length < fuel) :
    chars fuel cs = .ok (s, rest) ↔ Chars cs s rest := by
  constructor
  · -- on the fuel, of which every character takes some
    clear enough
    induction fuel generalizing cs s with
    | zero => nofun
    | succ fuel ih =>
      intro h
      cases cs with
      | nil => cases h
      | cons c cs =>
        rw [chars] at h
        split at h
        next quote =>
          obtain ⟨rfl, rfl⟩ := Prod.mk.inj (Except.ok.inj h)
          exact quote ▸ .quote cs
        next unquoted =>
          split at h
          next escaped =>
            obtain ⟨⟨c', middle⟩, first, h⟩ := bind_eq_ok_iff.mp h
            obtain ⟨⟨s', rest'⟩, more, h⟩ := bind_eq_ok_iff.mp h
            obtain ⟨rfl, rfl⟩ := Prod.mk.inj (Except.ok.inj h)
            exact escaped ▸ .escaped (escape_eq_ok_iff.mp first) (ih more)
          next unescaped =>
            split at h
            · cases h
            next printed =>
              obtain ⟨⟨s', rest'⟩, more, h⟩ := bind_eq_ok_iff.mp h
              obtain ⟨rfl, rfl⟩ := Prod.mk.inj (Except.ok.inj h)
              exact .plain unquoted unescaped (Nat.le_of_not_lt printed) (ih more)
  · intro h
    induction h generalizing fuel with
    | quote rest =>
      obtain ⟨fuel, rfl⟩ := Nat.exists_eq_add_of_lt enough
      rw [chars, if_pos rfl]
    | plain unquoted unescaped printed _ ih =>
      obtain ⟨fuel, rfl⟩ := Nat.exists_eq_add_of_lt enough
      rw [List.length_cons] at *
      rw [chars, if_neg unquoted, if_neg unescaped, if_neg (Nat.not_lt.mpr printed),
        ih (by omega)]
      rfl
    | escaped first _ ih =>
      obtain ⟨fuel, rfl⟩ := Nat.exists_eq_add_of_lt enough
      have := first.length_lt
      rw [List.length_cons] at *
      rw [chars, if_neg (by decide), if_pos rfl, escape_eq_ok_iff.mpr first, ok_bind]
      simp only
      rw [ih (by omega)]
      rfl

theorem string_eq_ok_iff {key : String} : string cs = .ok (key, rest) ↔ Chars cs key.toList rest := by
  rw [string, bind_eq_ok_iff]
  constructor
  · rintro ⟨⟨s, rest⟩, read, made⟩
    obtain ⟨rfl, rfl⟩ := Prod.mk.inj (Except.ok.inj made)
    rw [String.toList_ofList]
    exact (chars_eq_ok_iff (Nat.lt_succ_self _)).mp read
  · intro h
    refine ⟨_, (chars_eq_ok_iff (Nat.lt_succ_self _)).mpr h, ?_⟩
    exact congrArg (fun s => Except.ok (s, rest)) String.ofList_toList

end Strings

end Rehearsal.Json
