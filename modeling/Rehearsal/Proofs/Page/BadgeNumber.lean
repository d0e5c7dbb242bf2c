import Mathlib.Algebra.Group.Nat.Defs
import Mathlib.Data.List.TakeWhile
import Rehearsal.Page.Diagram
import Rehearsal.Page.Document

/-!
# Numbers on badges

What a badge shows is a number if there are digits between the blanks at its ends, perhaps
behind a plus sign. The number is read digit by digit, and reading gives up where 64 bits are
too few. `number?_eq_some_iff` says that it gives up only for numbers that do not fit: what is
read from the front of a number is not larger than the number. So `counts_shown` says which
texts have an answer, and which one.
-/

namespace Rehearsal

namespace Text

/-- Blanks at both ends are what is taken off. -/
theorem exists_eq_append_trim (s : List Char) :
    ∃ before after, s = before ++ trim s ++ after ∧
      (∀ c ∈ before, isBlank c = true) ∧ ∀ c ∈ after, isBlank c = true := by
  have start : s.takeWhile isBlank ++ trimStart s = s := List.takeWhile_append_dropWhile
  have finish : trimEnd (trimStart s) ++ ((trimStart s).reverse.takeWhile isBlank).reverse =
      trimStart s := by
    rw [trimEnd, ← List.reverse_append, List.takeWhile_append_dropWhile, List.reverse_reverse]
  refine ⟨s.takeWhile isBlank, ((trimStart s).reverse.takeWhile isBlank).reverse, ?_, ?_, ?_⟩
  · rw [trim, List.append_assoc, finish, start]
  · exact fun c => List.mem_takeWhile_imp
  · exact fun c mem => List.mem_takeWhile_imp (List.mem_reverse.mp mem)

theorem dropWhile_append_blank {before inner : List Char}
    (blank : ∀ c ∈ before, isBlank c = true) (dark : ∀ c ∈ inner, isBlank c = false) :
    (before ++ inner).dropWhile isBlank = inner := by
  rw [List.dropWhile_append_of_pos blank, List.dropWhile_eq_self_iff]
  intro some
  rw [dark _ (List.getElem_mem some)]
  exact Bool.false_ne_true

/-- Nothing else is taken off. -/
theorem trim_append {before inner after : List Char} (front : ∀ c ∈ before, isBlank c = true)
    (dark : ∀ c ∈ inner, isBlank c = false) (back : ∀ c ∈ after, isBlank c = true)
    (some : inner ≠ []) : trim (before ++ inner ++ after) = inner := by
  obtain ⟨c, more, rfl⟩ := List.exists_cons_of_ne_nil some
  have start : trimStart (before ++ (c :: more) ++ after) = c :: more ++ after := by
    rw [List.append_assoc, trimStart, List.dropWhile_append_of_pos front, List.cons_append,
      List.dropWhile_cons_of_neg (by simp [dark c List.mem_cons_self])]
  rw [trim, start, trimEnd, List.reverse_append, dropWhile_append_blank, List.reverse_reverse]
  · exact fun d mem => back d (List.mem_reverse.mp mem)
  · exact fun d mem => dark d (List.mem_reverse.mp mem)

end Text

open Text

namespace Diagram

/-- A text shows a number: there are digits for it, perhaps behind a plus sign, and blanks
around. -/
inductive Shows : List Char → Nat → Prop
  | intro {before sign digits after : List Char} (front : ∀ c ∈ before, isBlank c = true)
      (signed : sign = [] ∨ sign = ['+']) (some : digits ≠ [])
      (all : ∀ c ∈ digits, c.isDigit = true) (back : ∀ c ∈ after, isBlank c = true) :
      Shows (before ++ (sign ++ digits) ++ after) (Nat.ofDigitChars 10 digits 0)

theorem le_ofDigitChars (before : Nat) (digits : List Char) :
    before ≤ Nat.ofDigitChars 10 digits before := by
  have grows : before ≤ 10 ^ digits.length * before :=
    Nat.le_mul_of_pos_left before (Nat.pow_pos (by decide))
  rw [Nat.ofDigitChars_eq_ofDigitChars_zero]
  exact Nat.le_trans grows (Nat.le_add_right _ _)

/-- Digits are read as the number that they write, exactly if that is below the bound. -/
theorem number?_eq_some_iff {bound before n : Nat} (fits : before < bound) {cs : List Char} :
    number? bound before cs = some n ↔
      (∀ c ∈ cs, c.isDigit = true) ∧ Nat.ofDigitChars 10 cs before = n ∧ n < bound := by
  induction cs generalizing before with
  | nil =>
    rw [number?, Option.some.injEq, Nat.ofDigitChars_nil]
    constructor
    · rintro rfl
      exact ⟨List.forall_mem_nil _, rfl, fits⟩
    · rintro ⟨-, rfl, -⟩
      rfl
  | cons c cs ih =>
    have value : Nat.ofDigitChars 10 (c :: cs) before =
        Nat.ofDigitChars 10 cs (before * 10 + (c.toNat - 0x30)) := by
      rw [Nat.ofDigitChars_cons, Nat.mul_comm]
      rfl
    rw [value, List.forall_mem_cons, number?]
    by_cases digit : c.isDigit = true
    · by_cases next : before * 10 + (c.toNat - 0x30) < bound
      · rw [if_pos (by simp [digit, next])]
        exact (ih next).trans (by rw [and_iff_right digit])
      · -- the digits so far are too many, and those behind make the number no smaller
        rw [if_neg (by simp [next])]
        refine iff_of_false nofun ?_
        rintro ⟨-, rfl, small⟩
        exact next (Nat.lt_of_le_of_lt (le_ofDigitChars _ cs) small)
    · rw [if_neg (by simp [digit])]
      exact iff_of_false nofun fun spelled => digit spelled.1.1

/-- What is behind a plus sign, if there is one. -/
def behindPlus : List Char → List Char
  | '+' :: rest => rest
  | other => other

theorem badgeNumber?_eq (text : String) :
    badgeNumber? text =
      if (behindPlus (trim text.toList)).isEmpty then none
      else number? (1 <<< 64) 0 (behindPlus (trim text.toList)) := rfl

theorem behindPlus_digits {sign digits : List Char} (signed : sign = [] ∨ sign = ['+'])
    (all : ∀ c ∈ digits, c.isDigit = true) : behindPlus (sign ++ digits) = digits := by
  obtain rfl | rfl := signed
  · cases digits with
    | nil => rfl
    | cons c digits =>
      have digit := all c List.mem_cons_self
      rw [List.nil_append, behindPlus]
      intro rest same
      obtain ⟨rfl, -⟩ := List.cons.inj same
      nomatch digit
  · rfl

theorem exists_eq_append_behindPlus (s : List Char) :
    ∃ sign, s = sign ++ behindPlus s ∧ (sign = [] ∨ sign = ['+']) := by
  rw [behindPlus.eq_def]
  split
  · exact ⟨['+'], rfl, .inr rfl⟩
  · exact ⟨[], rfl, .inl rfl⟩

/-- The number on a badge is the one that its text shows, if 64 bits are enough for it. -/
theorem badgeNumber?_eq_some_iff {text : String} {n : Nat} :
    badgeNumber? text = some n ↔ Shows text.toList n ∧ n < 2 ^ 64 := by
  have read (digits : List Char) : number? (1 <<< 64) 0 digits = some n ↔
      (∀ c ∈ digits, c.isDigit = true) ∧ Nat.ofDigitChars 10 digits 0 = n ∧ n < 2 ^ 64 := by
    rw [number?_eq_some_iff (by decide), Nat.one_shiftLeft]
  rw [badgeNumber?_eq]
  constructor
  · intro found
    split at found
    · nomatch found
    next some =>
      obtain ⟨all, rfl, small⟩ := (read _).mp found
      obtain ⟨before, after, around, front, back⟩ := exists_eq_append_trim text.toList
      obtain ⟨sign, whole, signed⟩ := exists_eq_append_behindPlus (trim text.toList)
      refine ⟨?_, small⟩
      have shows := Shows.intro front signed (by simpa using some) all back
      rwa [← whole, ← around] at shows
  · rintro ⟨shows, small⟩
    generalize text.toList = s at shows
    obtain ⟨front, signed, some, all, back⟩ := shows
    next before sign digits after =>
    have dark : ∀ c ∈ sign ++ digits, isBlank c = false := by
      intro c mem
      obtain mem | mem := List.mem_append.mp mem
      · obtain rfl | rfl := signed
        · nomatch mem
        · obtain rfl := List.mem_singleton.mp mem
          rfl
      · exact isBlank_of_isDigit (all c mem)
    rw [trim_append front dark back (List.append_ne_nil_of_right_ne_nil sign some),
      behindPlus_digits signed all, if_neg (by simpa using some)]
    exact (read digits).mpr ⟨all, rfl, small⟩

variable {σ : Type}

theorem run_countOn (browser : Browser σ) (kind : Badge) (activity : String) (s : σ) :
    (countOn browser kind activity).run s =
      match (browser.text (badge kind activity)).run s with
      | (.ok text, t) => (.ok (text.bind badgeNumber?), t)
      | (.error e, t) => (.error e, t) := by
  rw [countOn, Session.run_bind]
  cases (browser.text (badge kind activity)).run s with
  | mk result t => cases result <;> rfl

/-- Where a badge has a text, both questions for a number answer with the number that the text
shows, if 64 bits are enough for it. For every other text they answer that there is none. -/
theorem counts_shown (browser : Browser σ) (activity text : String) :
    ∃ answer : Option Nat,
      (∀ n, answer = some n ↔ Shows text.toList n ∧ n < 2 ^ 64) ∧
      (answer = none ↔ ∀ n, Shows text.toList n → 2 ^ 64 ≤ n) ∧
      (∀ s t, (browser.text (badge .instances activity)).run s = (.ok (some text), t) →
        (runningInstances browser activity).run s = (.ok answer, t)) ∧
      ∀ s t, (browser.text (badge .incidents activity)).run s = (.ok (some text), t) →
        (openIncidents browser activity).run s = (.ok answer, t) := by
  have number (n : Nat) : badgeNumber? text = some n ↔ Shows text.toList n ∧ n < 2 ^ 64 :=
    badgeNumber?_eq_some_iff
  have answered (kind : Badge) (s t : σ)
      (shown : (browser.text (badge kind activity)).run s = (.ok (some text), t)) :
      (countOn browser kind activity).run s = (.ok (badgeNumber? text), t) := by
    rw [run_countOn, shown]
    rfl
  refine ⟨badgeNumber? text, number, ?_, answered .instances, answered .incidents⟩
  rw [Option.eq_none_iff_forall_ne_some]
  refine forall_congr' fun n => ?_
  rw [Ne, number, not_and, Nat.not_lt]

/-- The largest number of 64 bits, with zeros, a plus sign and blanks of three kinds. -/
theorem runningInstances_of_largest :
    let d := Document.blank.add (badge .instances "A").css
      { text := some "\u00a0\t+0018446744073709551615\u3000" }
    (Document.browser.text (badge .instances "A")).run d =
        (.ok (some "\u00a0\t+0018446744073709551615\u3000"), d) ∧
      (runningInstances Document.browser "A").run d = (.ok (some (2 ^ 64 - 1)), d) := by
  intro d
  have shown : (Document.browser.text (badge .instances "A")).run d =
      (.ok (some "\u00a0\t+0018446744073709551615\u3000"), d) := rfl
  obtain ⟨answer, number, -, running, -⟩ :=
    counts_shown Document.browser "A" "\u00a0\t+0018446744073709551615\u3000"
  have spelled : "\u00a0\t+0018446744073709551615\u3000".toList =
      ['\u00a0', '\t'] ++ (['+'] ++ "0018446744073709551615".toList) ++ ['\u3000'] := by
    decide +kernel
  have value : Nat.ofDigitChars 10 "0018446744073709551615".toList 0 = 2 ^ 64 - 1 := by
    decide +kernel
  have largest : Shows "\u00a0\t+0018446744073709551615\u3000".toList (2 ^ 64 - 1) := by
    rw [spelled, ← value]
    apply Shows.intro
    · exact List.all_eq_true.mp rfl
    · exact .inr rfl
    · exact nofun
    · exact List.all_eq_true.mp rfl
    · exact List.all_eq_true.mp rfl
  obtain rfl := (number _).mpr ⟨largest, by decide⟩
  exact ⟨shown, running d d shown⟩

end Diagram
end Rehearsal
