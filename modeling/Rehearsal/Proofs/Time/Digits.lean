import Mathlib.Algebra.Group.Nat.Defs
import Rehearsal.Proofs.Json.Decode
import Rehearsal.Time.Instant

/-!
# Numbers in the text of an instant

Numbers are written with zeros in front up to a width. Digits are read up to the next other
character, so that a number is read back whatever follows it, if that is no digit: the two
digits of a clock hand within its bounds, and a year with its sign.
-/

namespace Rehearsal.Instant

open Text

theorem padded_eq (width n : Nat) :
    padded width n =
      List.replicate (width - (Nat.toDigits 10 n).length) '0' ++ Nat.toDigits 10 n := by
  have digits : (toString n).toList = Nat.toDigits 10 n := Nat.toList_repr
  rw [padded, digits]

theorem isDigit_of_mem_padded {width n : Nat} {c : Char} (mem : c ∈ padded width n) :
    c.isDigit = true := by
  rw [padded_eq, List.mem_append] at mem
  obtain mem | mem := mem
  · obtain ⟨-, rfl⟩ := List.mem_replicate.mp mem
    rfl
  · exact Nat.isDigit_of_mem_toDigits (by decide) (by decide) mem

theorem padded_ne_nil (width n : Nat) : padded width n ≠ [] := by
  rw [padded_eq]
  exact List.append_ne_nil_of_right_ne_nil _ Nat.toDigits_ne_nil

/-- Zeros in front do not change a number. -/
theorem ofDigitChars_padded (width n : Nat) : Nat.ofDigitChars 10 (padded width n) 0 = n := by
  rw [padded_eq, Nat.ofDigitChars_append, Nat.ofDigitChars_replicate_zero, Nat.mul_zero,
    Nat.ofDigitChars_ten_toDigits]

theorem length_padded {width n : Nat} (wide : 0 < width) (fits : n < 10 ^ width) :
    (padded width n).length = width := by
  have short := (Nat.length_toDigits_le_iff (by decide) wide).mpr fits
  rw [padded_eq, List.length_append, List.length_replicate]
  omega

/-- The number that digits write has no more places than there are digits. -/
theorem ofDigitChars_lt {cs : List Char} (all : ∀ c ∈ cs, c.isDigit = true) :
    Nat.ofDigitChars 10 cs 0 < 10 ^ cs.length := by
  induction cs with
  | nil => decide
  | cons c cs ih =>
    rw [List.forall_mem_cons, Char.isDigit_iff_toNat] at all
    obtain ⟨⟨low, high⟩, others⟩ := all
    have behind := ih others
    have digit : c.toNat - '0'.toNat ≤ 9 := Nat.sub_le_sub_right high _
    have front : 10 ^ cs.length * (c.toNat - '0'.toNat) ≤ 10 ^ cs.length * 9 :=
      Nat.mul_le_mul_left _ digit
    rw [Nat.ofDigitChars_cons, Nat.ofDigitChars_eq_ofDigitChars_zero, Nat.mul_zero, Nat.zero_add,
      List.length_cons, Nat.pow_succ]
    omega

theorem foldl_eq_ofDigitChars (cs : List Char) :
    cs.foldl (fun n d => n * 10 + (d.toNat - 0x30)) 0 = Nat.ofDigitChars 10 cs 0 := by
  rw [Nat.ofDigitChars_eq_foldl]
  congr
  funext n d
  rw [Nat.mul_comm]
  rfl

theorem takeWhile_digits {ds more : List Char} {c : Char} (all : ∀ d ∈ ds, d.isDigit = true)
    (other : c.isDigit = false) : (ds ++ c :: more).takeWhile Char.isDigit = ds := by
  rw [List.takeWhile_append_of_pos all, List.takeWhile_cons_of_neg (by simp [other]),
    List.append_nil]

/-- Digits are read up to the next other character. -/
theorem digits_append {width : Nat} {ds more : List Char} {c : Char} (filled : ds ≠ [])
    (all : ∀ d ∈ ds, d.isDigit = true) (short : ds.length ≤ width) (other : c.isDigit = false) :
    digits width (ds ++ c :: more) = .ok (Nat.ofDigitChars 10 ds 0, c :: more) := by
  have taken : ((ds ++ c :: more).takeWhile Char.isDigit).take width = ds := by
    rw [takeWhile_digits all other, List.take_of_length_le short]
  obtain ⟨d, rest, rfl⟩ := List.exists_cons_of_ne_nil filled
  have first := all d List.mem_cons_self
  rw [List.cons_append] at taken ⊢
  rw [digits]
  dsimp only
  rw [if_pos first, taken, foldl_eq_ofDigitChars, ← List.cons_append, List.drop_left]

/-- What is read as a number are digits, at most as many as may be read. -/
theorem exists_of_digits {width n : Nat} {cs rest : List Char}
    (read : digits width cs = .ok (n, rest)) :
    ∃ ds, cs = ds ++ rest ∧ (∀ d ∈ ds, d.isDigit = true) ∧ ds.length ≤ width ∧
      Nat.ofDigitChars 10 ds 0 = n := by
  cases cs with
  | nil => cases read
  | cons c more =>
    rw [digits] at read
    by_cases first : c.isDigit = true
    · rw [if_pos first] at read
      obtain ⟨value, behind⟩ := Prod.mk.inj (Except.ok.inj read)
      have front : ((c :: more).takeWhile Char.isDigit).take width <+: c :: more :=
        (List.take_prefix width _).trans (List.takeWhile_prefix Char.isDigit)
      refine ⟨((c :: more).takeWhile Char.isDigit).take width, ?_, ?_, List.length_take_le _ _, ?_⟩
      · rw [← behind]
        exact (List.prefix_iff_eq_append.mp front).symm
      · intro d mem
        exact List.all_eq_true.mp List.all_takeWhile d (List.mem_of_mem_take mem)
      · rw [← value, foldl_eq_ofDigitChars]
    · rw [if_neg first] at read
      cases read

theorem trimStart_digits {ds rest : List Char} (filled : ds ≠ [])
    (all : ∀ d ∈ ds, d.isDigit = true) : trimStart (ds ++ rest) = ds ++ rest := by
  obtain ⟨d, more, rfl⟩ := List.exists_cons_of_ne_nil filled
  have dark := isBlank_of_isDigit (all d List.mem_cons_self)
  exact List.dropWhile_cons_of_neg (by simp [dark])

/-- A number within its bounds is read back. -/
theorem twoDigits_padded {low high n : Nat} {more : List Char} {c : Char} (least : low ≤ n)
    (most : n ≤ high) (fits : n < 100) (other : c.isDigit = false) :
    twoDigits low high (padded 2 n ++ c :: more) = .ok (n, c :: more) := by
  have all : ∀ d ∈ padded 2 n, d.isDigit = true := fun d => isDigit_of_mem_padded
  have filled := padded_ne_nil 2 n
  have short : (padded 2 n).length ≤ 2 := Nat.le_of_eq (length_padded (by decide) fits)
  rw [twoDigits, trimStart_digits filled all, digits_append filled all short other,
    ofDigitChars_padded, Json.ok_bind]
  simp only [least, most, decide_true, Bool.and_self, if_true]
  rfl

theorem bounds_of_twoDigits {low high n : Nat} {cs rest : List Char}
    (read : twoDigits low high cs = .ok (n, rest)) : low ≤ n ∧ n ≤ high := by
  obtain ⟨⟨m, more⟩, -, bounded⟩ := Json.bind_eq_ok_iff.mp read
  dsimp only at bounded
  by_cases within : (decide (low ≤ m) && decide (m ≤ high)) = true
  · rw [if_pos within] at bounded
    obtain ⟨rfl, -⟩ := Prod.mk.inj (Except.ok.inj bounded)
    simpa using within
  · rw [if_neg within] at bounded
    nomatch bounded

/-- Four digits at most are read as a year when no sign stands before them. -/
theorem year_of_isDigit {d : Char} {rest : List Char} (digit : d.isDigit = true) :
    year (d :: rest) = (digits 4 (d :: rest)).bind fun read => .ok ((read.1 : Int), read.2) := by
  have trimmed : trimStart (d :: rest) = d :: rest :=
    trimStart_digits (List.cons_ne_nil d []) (List.forall_mem_singleton.mpr digit)
  rw [year, trimmed]
  split
  case h_1 eq =>
    obtain ⟨rfl, -⟩ := List.cons.inj eq
    exact absurd digit (by decide)
  case h_2 eq =>
    obtain ⟨rfl, -⟩ := List.cons.inj eq
    exact absurd digit (by decide)
  case h_3 => rfl

/-- A year is read back, with its sign if it has one. -/
theorem year_yearText {y : Int} (low : -2147483648 ≤ y) (high : y < 2147483648)
    {more : List Char} {c : Char} (other : c.isDigit = false) :
    year (yearText y ++ c :: more) = .ok (y, c :: more) := by
  have all : ∀ d ∈ padded 4 y.natAbs, d.isDigit = true := fun d => isDigit_of_mem_padded
  have filled := padded_ne_nil 4 y.natAbs
  have after : digits (padded 4 y.natAbs ++ c :: more).length (padded 4 y.natAbs ++ c :: more) =
      .ok (y.natAbs, c :: more) := by
    rw [digits_append filled all (by simp) other, ofDigitChars_padded]
  have bounded : (decide (-2147483648 ≤ y) && decide (y < 2147483648)) = true := by
    rw [decide_eq_true low, decide_eq_true high, Bool.and_self]
  rw [yearText]
  by_cases negative : y < 0
  · have value : -(y.natAbs : Int) = y := by omega
    rw [if_pos negative, List.cons_append]
    show (digits _ _ >>= _) = _
    rw [after, Json.ok_bind]
    dsimp only
    rw [value, if_pos bounded]
  · have value : (y.natAbs : Int) = y := by omega
    rw [if_neg negative]
    by_cases large : 9999 < y
    · rw [if_pos large, List.cons_append]
      show (digits _ _ >>= _) = _
      rw [after, Json.ok_bind]
      dsimp only
      rw [value, if_pos bounded]
    · have short : (padded 4 y.natAbs).length ≤ 4 :=
        Nat.le_of_eq (length_padded (by decide) (by omega))
      have read : digits 4 (padded 4 y.natAbs ++ c :: more) = .ok (y.natAbs, c :: more) := by
        rw [digits_append filled all short other, ofDigitChars_padded]
      obtain ⟨d, rest, eq⟩ := List.exists_cons_of_ne_nil filled
      rw [if_neg large]
      rw [eq, List.cons_append] at read ⊢
      rw [year_of_isDigit (all d (eq ▸ List.mem_cons_self)), read]
      exact congrArg (fun n : Int => Except.ok (n, c :: more)) value

end Rehearsal.Instant
