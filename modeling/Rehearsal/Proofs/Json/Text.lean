import Mathlib.Algebra.Group.Int.Defs
import Mathlib.Algebra.Group.Nat.Defs
import Rehearsal.Json.Reader

/-!
# Strings and numbers are read back

`Reads` says that a reader takes a text for a value, wherever the text stands and whatever
comes behind it, unless a number could go on with it. Strings are read back character by
character, and whole numbers digit by digit, if they fit into 64 bits.
-/

namespace Rehearsal.Json

open Text

/-- What can stand behind a value: nothing, or what no number can go on with. -/
def Ends (rest : List Char) : Prop :=
  ∀ c more, rest = c :: more → isSpace c = true ∨ c = ',' ∨ c = ']' ∨ c = '\x7d'

/-- A reader takes a text for a value, whatever space is in front of it and whatever stands
behind it. -/
structure Reads {α : Type} (reader : Reader α) (text : List Char) (x : α) : Prop where
  starts : ∃ c more, text = c :: more ∧ isSpace c = false ∧ c ≠ ']'
  reads : ∀ space rest, (∀ c ∈ space, isSpace c = true) → Ends rest →
    reader (space ++ (text ++ rest)) = .ok (x, rest)

theorem skipSpace_append {space : List Char} {c : Char} (blank : ∀ c ∈ space, isSpace c = true)
    (some : isSpace c = false) (rest : List Char) :
    skipSpace (space ++ c :: rest) = c :: rest := by
  rw [skipSpace, List.dropWhile_append_of_pos blank, List.dropWhile_cons_of_neg (by simp [some])]

theorem skipSpace_cons {c : Char} (some : isSpace c = false) (rest : List Char) :
    skipSpace (c :: rest) = c :: rest :=
  skipSpace_append (List.forall_mem_nil _) some rest

section Strings

variable {s : List Char}

theorem hexUnit_control {n : Nat} (small : n < 0x20) (rest : List Char) :
    hexUnit ('0' :: '0' :: hexLower (n / 16) :: hexLower (n % 16) :: rest) = .ok (n, rest) := by
  have zero : hexValue? '0' = some 0 := rfl
  have whole : ((0 * 16 + 0) * 16 + n / 16) * 16 + n % 16 = n := by omega
  rw [hexUnit]
  simp only [zero, hexValue?_hexLower _ (show n / 16 < 16 by omega),
    hexValue?_hexLower _ (show n % 16 < 16 by omega), whole]

theorem unicodeEscape_control {c : Char} (small : c.toNat < 0x20) (rest : List Char) :
    unicodeEscape ('0' :: '0' :: hexLower (c.toNat / 16) :: hexLower (c.toNat % 16) :: rest) =
      .ok (c, rest) := by
  have surrogate : ¬ (0xdc00 ≤ c.toNat && c.toNat ≤ 0xdfff) = true := by
    simp
    omega
  have alone : (c.toNat < 0xd800 || 0xdbff < c.toNat) = true := by
    simp
    omega
  rw [unicodeEscape, hexUnit_control small]
  change (if (0xdc00 ≤ c.toNat && c.toNat ≤ 0xdfff) = true then _
    else if (c.toNat < 0xd800 || 0xdbff < c.toNat) = true then _ else _) = _
  rw [if_neg surrogate, if_pos alone, Char.ofNat_toNat]
  rfl

/-- What is escaped has a short form, or is a control character, or stands for itself. -/
theorem escapeChar_cases (c : Char) :
    (∃ letter, escapeChar c = ['\\', letter] ∧
        ∀ numbered rest, escape numbered (letter :: rest) = .ok (c, rest)) ∨
      (c.toNat < 0x20 ∧ escapeChar c =
        ['\\', 'u', '0', '0', hexLower (c.toNat / 16), hexLower (c.toNat % 16)]) ∨
      escapeChar c = [c] ∧ c ≠ '"' ∧ c ≠ '\\' ∧ ¬ c.toNat < 0x20 := by
  unfold escapeChar
  split
  · exact .inl ⟨_, rfl, fun _ _ => rfl⟩
  · exact .inl ⟨_, rfl, fun _ _ => rfl⟩
  · exact .inl ⟨_, rfl, fun _ _ => rfl⟩
  · exact .inl ⟨_, rfl, fun _ _ => rfl⟩
  · exact .inl ⟨_, rfl, fun _ _ => rfl⟩
  · exact .inl ⟨_, rfl, fun _ _ => rfl⟩
  · exact .inl ⟨_, rfl, fun _ _ => rfl⟩
  next quote backslash _ _ _ _ _ =>
    split
    next small => exact .inr (.inl ⟨small, rfl⟩)
    next large => exact .inr (.inr ⟨rfl, quote, backslash, large⟩)

/-- A character is read as it was escaped. -/
theorem chars_escapeChar (fuel : Nat) (c : Char) (rest : List Char) :
    chars (fuel + 1) (escapeChar c ++ rest) =
      (chars fuel rest).map fun read => (c :: read.1, read.2) := by
  have taken {more : List Char} (read : escape unicodeEscape more = .ok (c, rest)) :
      chars (fuel + 1) ('\\' :: more) =
        (chars fuel rest).map fun read => (c :: read.1, read.2) := by
    rw [chars, if_neg (by decide), if_pos rfl, read]
    change (chars fuel rest >>= fun read => pure (c :: read.1, read.2)) = _
    cases chars fuel rest <;> rfl
  obtain ⟨letter, short, read⟩ | ⟨small, control⟩ | ⟨plain, quote, backslash, large⟩ :=
    escapeChar_cases c
  · rw [short]
    exact taken (read unicodeEscape rest)
  · rw [control]
    exact taken (unicodeEscape_control small rest)
  · rw [plain, List.singleton_append, chars, if_neg quote, if_neg backslash, if_neg large]
    cases chars fuel rest <;> rfl

theorem chars_flatMap {fuel : Nat} (enough : s.length < fuel) (rest : List Char) :
    chars fuel (s.flatMap escapeChar ++ '"' :: rest) = .ok (s, rest) := by
  induction s generalizing fuel with
  | nil =>
    obtain ⟨fuel, rfl⟩ := Nat.exists_eq_add_of_lt enough
    rw [List.length_nil, Nat.zero_add, List.flatMap_nil, List.nil_append, chars, if_pos rfl]
  | cons c s ih =>
    obtain ⟨fuel, rfl⟩ := Nat.exists_eq_add_of_lt enough
    have behind : chars (s.length + 1 + fuel) (s.flatMap escapeChar ++ '"' :: rest) =
        .ok (s, rest) := ih (by omega)
    rw [List.length_cons, List.flatMap_cons, List.append_assoc, chars_escapeChar, behind]
    rfl

theorem length_le_length_flatMap (s : List Char) : s.length ≤ (s.flatMap escapeChar).length := by
  induction s with
  | nil => exact Nat.le_refl 0
  | cons c s ih =>
    have one : 0 < (escapeChar c).length := by
      obtain ⟨letter, short, -⟩ | ⟨-, control⟩ | ⟨plain, -⟩ := escapeChar_cases c
      · simp [short]
      · simp [control]
      · simp [plain]
    rw [List.flatMap_cons, List.length_append, List.length_cons]
    omega

/-- Behind space, the text of a string begins with its quote. -/
theorem skipSpace_quote {space : List Char} (blank : ∀ c ∈ space, isSpace c = true) (s : String)
    (rest : List Char) : skipSpace (space ++ (quote s ++ rest)) =
      '"' :: (s.toList.flatMap escapeChar ++ '"' :: rest) := by
  rw [quote, List.cons_append, List.cons_append, List.append_assoc, skipSpace_append blank rfl]
  rfl

/-- A string is read back from its quotes. -/
theorem string_quoted (s : String) (rest : List Char) :
    string (s.toList.flatMap escapeChar ++ '"' :: rest) = .ok (s, rest) := by
  have enough : s.toList.length < (s.toList.flatMap escapeChar ++ '"' :: rest).length + 1 := by
    have longer := length_le_length_flatMap s.toList
    rw [List.length_append]
    omega
  rw [string, chars_flatMap enough]
  change Except.ok (String.ofList s.toList, rest) = _
  rw [String.ofList_toList]

end Strings

section Numbers

variable {rest : List Char}

/-- The characters that can stand behind a value. -/
def enders : List Char := [' ', '\n', '\t', '\r', ',', ']', '\x7d']

theorem Ends.cases (ends : Ends rest) : rest = [] ∨ ∃ c ∈ enders, ∃ more, rest = c :: more := by
  cases rest with
  | nil => exact .inl rfl
  | cons c more =>
    refine .inr ⟨c, ?_, more, rfl⟩
    obtain space | rfl | rfl | rfl := ends c more rfl
    · simp only [isSpace, Bool.or_eq_true, beq_iff_eq] at space
      obtain ((rfl | rfl) | rfl) | rfl := space <;> decide
    · decide
    · decide
    · decide

theorem takeDigits_of_ends (ends : Ends rest) (n count : Nat) :
    takeDigits n count rest = (n, count, rest) := by
  obtain rfl | ⟨c, mem, more, rfl⟩ := ends.cases
  · rfl
  · have none : ∀ c ∈ enders, digitValue? c = none := by simp [enders, digitValue?]
    rw [takeDigits, none c mem]

theorem digitValue?_digitChar : ∀ d, d < 10 → digitValue? (Nat.digitChar d) = some d := by decide

theorem takeDigits_cons {n count d : Nat} (digit : d < 10) (fits : n * 10 + d < 2 ^ 64) :
    takeDigits n count (Nat.digitChar d :: rest) = takeDigits (n * 10 + d) (count + 1) rest := by
  have below : n * 10 + d < 1 <<< 64 := by rwa [Nat.one_shiftLeft]
  rw [takeDigits, digitValue?_digitChar d digit]
  simp only [below, if_true]

/-- The digits of a number that fits are taken for it. -/
theorem takeDigits_toDigits {n : Nat} (fits : n < 2 ^ 64) (rest : List Char) :
    ∃ count, takeDigits 0 0 (Nat.toDigits 10 n ++ rest) = takeDigits n count rest := by
  -- on the number, which is the one in front of its last digit and that digit
  induction n using Nat.strongRecOn generalizing rest with
  | ind n ih =>
    by_cases small : n < 10
    · rw [Nat.toDigits_of_lt_base small, List.singleton_append, takeDigits_cons small (by omega)]
      exact ⟨1, by rw [Nat.zero_mul, Nat.zero_add]⟩
    · obtain ⟨count, front⟩ := ih (n / 10) (by omega) (by omega) (Nat.digitChar (n % 10) :: rest)
      rw [Nat.toDigits_of_base_le (by decide) (by omega), List.append_assoc,
        List.singleton_append, front, takeDigits_cons (by omega) (by omega)]
      exact ⟨count + 1, by rw [Nat.div_add_mod']⟩

/-- Only zero itself begins with the digit zero. -/
theorem toDigits_eq_cons (n : Nat) :
    ∃ c more, Nat.toDigits 10 n = c :: more ∧ c.isDigit = true ∧ (c = '0' → n = 0) := by
  induction n using Nat.strongRecOn with
  | ind n ih =>
    by_cases small : n < 10
    · have digit : ∀ n, n < 10 → (Nat.digitChar n).isDigit = true ∧
          (Nat.digitChar n = '0' → n = 0) := by decide
      exact ⟨_, [], Nat.toDigits_of_lt_base small, digit n small⟩
    · obtain ⟨c, more, front, digit, zero⟩ := ih (n / 10) (by omega)
      refine ⟨c, more ++ [Nat.digitChar (n % 10)], ?_, digit, fun first => ?_⟩
      · rw [Nat.toDigits_of_base_le (by decide) (by omega), front, List.cons_append]
      · have := zero first
        omega

/-- Where a number ends, the digits so far are all of it. -/
theorem wholeTail_of_ends (ends : Ends rest) (negative : Bool) (n : Nat) :
    wholeTail negative n rest =
      if !negative then .ok (.int n, rest)
      else if 0 < n && n ≤ 1 <<< 63 then .ok (.int (-n), rest)
      else .ok (.float (signed true (Binary64.ofNat n)), rest) := by
  have tail : wholeTail negative n rest =
      if !negative then pure (.int n, rest)
      else if 0 < n && n ≤ 1 <<< 63 then pure (.int (-n), rest)
      else pure (.float (signed true (Binary64.ofNat n)), rest) := by
    obtain rfl | ⟨c, mem, more, rfl⟩ := ends.cases
    · rfl
    · simp only [enders, List.mem_cons, List.not_mem_nil, or_false] at mem
      obtain rfl | rfl | rfl | rfl | rfl | rfl | rfl := mem <;> rfl
  exact tail

/-- A number that fits is read back after its sign. -/
theorem numberAfterSign_toDigits {n : Nat} (fits : n < 2 ^ 64) (ends : Ends rest)
    (negative : Bool) :
    numberAfterSign negative (Nat.toDigits 10 n ++ rest) = wholeTail negative n rest := by
  obtain ⟨c, more, digits, digit, zero⟩ := toDigits_eq_cons n
  by_cases first : c = '0'
  · obtain rfl := zero first
    rw [Nat.toDigits_zero, List.singleton_append]
    obtain rfl | ⟨c, mem, more, rfl⟩ := ends.cases
    · rfl
    · have none : ∀ c ∈ enders, c.isDigit = false := by simp [enders]
      rw [numberAfterSign]
      simp only [none c mem]
      rfl
  · obtain ⟨count, taken⟩ := takeDigits_toDigits fits rest
    rw [takeDigits_of_ends ends, digits, List.cons_append] at taken
    rw [digits, List.cons_append, numberAfterSign]
    · simp only [digit, if_true, taken]
    · exact first

theorem intText_ofNat (n : Nat) : intText n = Nat.toDigits 10 n := Nat.toList_repr

theorem intText_negSucc (n : Nat) : intText (Int.negSucc n) = '-' :: Nat.toDigits 10 (n + 1) := by
  have text : toString (Int.negSucc n) = "-" ++ toString (n + 1) := rfl
  rw [intText, text, String.toList_append]
  exact congrArg ('-' :: ·) Nat.toList_repr

/-- A whole number that fits into 64 bits is read back. -/
theorem number_intText {n : Int} (low : -2 ^ 63 ≤ n) (high : n < 2 ^ 64) :
    ∃ c more, intText n = c :: more ∧ (c = '-' ∨ c.isDigit = true) ∧
      ∀ rest, Ends rest → number c (more ++ rest) = .ok (.int n, rest) := by
  cases n with
  | ofNat n =>
    obtain ⟨c, more, digits, digit, -⟩ := toDigits_eq_cons n
    have unsigned : c ≠ '-' := by
      rintro rfl
      nomatch digit
    have fits : n < 2 ^ 64 := by
      have bound : (n : Int) < 2 ^ 64 := high
      omega
    refine ⟨c, more, (intText_ofNat n).trans digits, .inr digit, fun rest ends => ?_⟩
    rw [number, if_neg unsigned, ← List.cons_append, ← digits, numberAfterSign_toDigits fits ends,
      wholeTail_of_ends ends]
    rfl
  | negSucc n =>
    have bound : n + 1 ≤ 2 ^ 63 := by omega
    refine ⟨'-', _, intText_negSucc n, .inl rfl, fun rest ends => ?_⟩
    have holds : (decide (0 < n + 1) && decide (n + 1 ≤ 1 <<< 63)) = true := by
      simp only [Nat.one_shiftLeft, bound, decide_true, Nat.succ_pos, Bool.and_true]
    rw [number, if_pos rfl, numberAfterSign_toDigits (by omega) ends, wholeTail_of_ends ends,
      if_neg (by decide), if_pos holds]
    rfl

end Numbers

end Rehearsal.Json
