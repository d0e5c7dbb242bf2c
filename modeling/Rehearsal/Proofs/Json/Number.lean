import Rehearsal.Proofs.Json.Grammar

/-!
# Numbers by their form

What the number reader takes off the front of a text has the form of a number, and it takes it
for the same wherever it stands, if no number can go on behind it. `Takes` says so of a reader,
and is carried from the digits of an exponent, which are read last, to the whole of a number.
Of the digits in front of them only those count that fit into 64 bits; how many there are is
decided by the digits alone, so that these are always looked at up to the last one.

The other way round a text of the form of a number is one, unless the number is too large:
`takesAll_number`.
-/

namespace Rehearsal.Json

open Text

/-- A reader takes the front of a text for a value and leaves the rest. What it takes has a
form, and is taken for the same wherever no number can go on behind it. -/
def Takes {α : Type} (reader : Reader α) (form : List Char → Prop) (cs : List Char) (x : α)
    (rest : List Char) : Prop :=
  ∃ text, cs = text ++ rest ∧ form text ∧
    ∀ behind, Ends behind → reader (text ++ behind) = .ok (x, behind)

/-- A text that does not begin with a digit. -/
def NoDigit (cs : List Char) : Prop := ∀ c more, cs = c :: more → c.isDigit = false

section Digits

variable {cs ds more : List Char} {c : Char}

theorem Ends.noDigit (ends : Ends cs) : NoDigit cs := by
  rintro c more rfl
  have none : ∀ c ∈ enders, c.isDigit = false := by simp [enders]
  obtain nothing | ⟨d, among, behind, same⟩ := ends.cases
  · exact absurd nothing (List.cons_ne_nil c more)
  · obtain ⟨rfl, -⟩ := List.cons.inj same
    exact none c among

theorem ends_nil : Ends [] := nofun

theorem noDigit_nil : NoDigit [] := nofun

theorem noDigit_cons (none : c.isDigit = false) : NoDigit (c :: more) := by
  rintro d behind same
  obtain ⟨rfl, -⟩ := List.cons.inj same
  exact none

/-- Every text begins with all of its leading digits. -/
theorem exists_digits (cs : List Char) :
    ∃ ds more, cs = ds ++ more ∧ (∀ c ∈ ds, c.isDigit = true) ∧ NoDigit more := by
  refine ⟨cs.takeWhile Char.isDigit, cs.dropWhile Char.isDigit,
    List.takeWhile_append_dropWhile.symm, List.all_eq_true.mp List.all_takeWhile, ?_⟩
  intro c more same
  have head := List.head?_dropWhile_not Char.isDigit cs
  rw [same] at head
  simpa using head

theorem skipDigits_append (digits : ∀ c ∈ ds, c.isDigit = true) (none : NoDigit more) :
    skipDigits (ds ++ more) = more := by
  rw [skipDigits, List.dropWhile_append_of_pos digits]
  cases more with
  | nil => rfl
  | cons c more => rw [List.dropWhile_cons_of_neg (by simp [none c more rfl])]

theorem takeWhile_isDigit_append (digits : ∀ c ∈ ds, c.isDigit = true) (none : NoDigit more) :
    (ds ++ more).takeWhile Char.isDigit = ds := by
  rw [List.takeWhile_append_of_pos digits]
  cases more with
  | nil => rw [List.takeWhile_nil, List.append_nil]
  | cons c more =>
    rw [List.takeWhile_cons_of_neg (by simp [none c more rfl]), List.append_nil]

theorem digitValue?_eq_none_iff : digitValue? c = none ↔ c.isDigit = false := by
  rw [digitValue?, ← Bool.not_eq_true, Char.isDigit_iff_toNat]
  split <;> simp_all

theorem digitValue?_of_isDigit (digit : c.isDigit = true) : ∃ d, digitValue? c = some d := by
  cases value : digitValue? c with
  | some d => exact ⟨d, rfl⟩
  | none =>
    rw [digitValue?_eq_none_iff.mp value] at digit
    nomatch digit

theorem takeDigits_of_noDigit (none : NoDigit cs) (n count : Nat) :
    takeDigits n count cs = (n, count, cs) := by
  cases cs with
  | nil => rfl
  | cons c more => rw [takeDigits, digitValue?_eq_none_iff.mpr (none c more rfl)]

/-- Which digits fit is decided by the digits. -/
theorem takeDigits_append (digits : ∀ c ∈ ds, c.isDigit = true) (none : NoDigit more)
    (n count : Nat) :
    takeDigits n count (ds ++ more) =
      ((takeDigits n count ds).1, (takeDigits n count ds).2.1,
        (takeDigits n count ds).2.2 ++ more) := by
  induction ds generalizing n count with
  | nil => exact takeDigits_of_noDigit none n count
  | cons c ds ih =>
    obtain ⟨first, others⟩ := List.forall_mem_cons.mp digits
    obtain ⟨d, value⟩ := digitValue?_of_isDigit first
    rw [List.cons_append, takeDigits, takeDigits, value]
    simp only
    split
    · exact ih others _ _
    · rfl

/-- The digits that do not fit are digits, and there are such unless all have been taken. -/
theorem takeDigits_left (digits : ∀ c ∈ ds, c.isDigit = true) (n count : Nat) :
    (∀ c ∈ (takeDigits n count ds).2.2, c.isDigit = true) ∧
      ((takeDigits n count ds).2.2 = [] → (takeDigits n count ds).2.1 = count + ds.length) := by
  induction ds generalizing n count with
  | nil => exact ⟨List.forall_mem_nil _, fun _ => rfl⟩
  | cons c ds ih =>
    obtain ⟨first, others⟩ := List.forall_mem_cons.mp digits
    obtain ⟨d, value⟩ := digitValue?_of_isDigit first
    rw [takeDigits, value]
    simp only
    split
    · rw [List.length_cons, Nat.add_comm ds.length 1, ← Nat.add_assoc]
      exact ih others _ _
    · exact ⟨digits, fun nothing => absurd nothing (List.cons_ne_nil c ds)⟩

end Digits

section Fractions

variable {cs ds more rest left : List Char} {c : Char} {x : Binary64} {negative down : Bool}
variable {digits n : Nat} {start power : Int}

theorem takes_finishFraction (h : finishFraction negative digits power cs = .ok (x, rest)) :
    Takes (finishFraction negative digits power) (· = []) cs x rest := by
  rw [finishFraction] at h
  cases scale : scaled? digits power with
  | none =>
    rw [scale] at h
    nomatch h
  | some y =>
    rw [scale] at h
    obtain ⟨rfl, rfl⟩ := Prod.mk.inj (Except.ok.inj h)
    refine ⟨[], rfl, rfl, fun behind _ => ?_⟩
    rw [finishFraction, scale]
    rfl

/-- Where its digits end, the exponent is known. -/
theorem exponentDigits_of_noDigit (none : NoDigit cs) :
    exponentDigits negative digits start down n cs =
      finishFraction negative digits (if down then start - n else start + n) cs := by
  cases cs with
  | nil => rfl
  | cons c more => rw [exponentDigits, digitValue?_eq_none_iff.mpr (none c more rfl)]

theorem takes_exponentDigits
    (h : exponentDigits negative digits start down n cs = .ok (x, rest)) :
    Takes (exponentDigits negative digits start down n) (∀ c ∈ ·, c.isDigit = true) cs x rest := by
  have ended {cs : List Char} {n : Nat} (none : NoDigit cs)
      (h : exponentDigits negative digits start down n cs = .ok (x, rest)) :
      Takes (exponentDigits negative digits start down n) (∀ c ∈ ·, c.isDigit = true) cs x
        rest := by
    rw [exponentDigits_of_noDigit none] at h
    obtain ⟨_, rfl, rfl, takes⟩ := takes_finishFraction h
    refine ⟨[], rfl, List.forall_mem_nil _, fun behind ends => ?_⟩
    rw [List.nil_append, exponentDigits_of_noDigit ends.noDigit]
    exact takes behind ends
  -- on the text, whose digits are looked at one after another
  induction cs generalizing n with
  | nil => exact ended noDigit_nil h
  | cons c cs ih =>
    cases value : digitValue? c with
    | none => exact ended (noDigit_cons (digitValue?_eq_none_iff.mp value)) h
    | some d =>
      have digit : c.isDigit = true := by
        rw [← Bool.not_eq_false, ← digitValue?_eq_none_iff, value]
        nofun
      rw [exponentDigits, value] at h
      simp only at h
      split at h
      next small =>
        obtain ⟨text, rfl, form, takes⟩ := ih h
        refine ⟨c :: text, rfl, List.forall_mem_cons.mpr ⟨digit, form⟩, fun behind ends => ?_⟩
        rw [List.cons_append, exponentDigits, value]
        simp only [small, if_true]
        exact takes behind ends
      next large =>
        split at h
        · nomatch h
        next held =>
          obtain ⟨rfl, rfl⟩ := Prod.mk.inj (Except.ok.inj h)
          obtain ⟨ds, more, rfl, others, none⟩ := exists_digits cs
          rw [skipDigits_append others none]
          refine ⟨c :: ds, rfl, List.forall_mem_cons.mpr ⟨digit, others⟩, fun behind ends => ?_⟩
          rw [List.cons_append, exponentDigits, value]
          simp only [large, held, Bool.false_eq_true, if_false,
            skipDigits_append others ends.noDigit]

/-- What stands behind the letter of an exponent. -/
def SignedDigits (text : List Char) : Prop :=
  ∃ sign ds, text = sign ++ ds ∧ (sign = [] ∨ sign = ['+'] ∨ sign = ['-']) ∧ Digits ds

/-- Behind its sign an exponent begins with a digit. -/
theorem exponent_append {sign : List Char} {d : Nat}
    (signed : sign = [] ∨ sign = ['+'] ∨ sign = ['-']) (value : digitValue? c = some d) :
    exponent negative digits start (sign ++ c :: cs) =
      exponentDigits negative digits start (decide (sign = ['-'])) d cs := by
  obtain rfl | rfl | rfl := signed
  · have unsigned : c ≠ '+' ∧ c ≠ '-' := by
      constructor <;> rintro rfl <;> nomatch value
    unfold exponent
    split
    next same =>
      split at same
      next plus => exact absurd (List.cons.inj plus).1 unsigned.1
      next minus => exact absurd (List.cons.inj minus).1 unsigned.2
      next =>
        obtain ⟨rfl, rfl⟩ := Prod.mk.inj same
        simp only [List.nil_append, value]
        rfl
  · simp only [exponent, List.singleton_append, value]
    rfl
  · simp only [exponent, List.singleton_append, value]
    rfl

/-- An exponent that is read begins with a digit behind its sign. -/
theorem exists_of_exponent (h : exponent negative digits start cs = .ok (x, rest)) :
    ∃ sign c d more, cs = sign ++ c :: more ∧ (sign = [] ∨ sign = ['+'] ∨ sign = ['-']) ∧
      digitValue? c = some d := by
  unfold exponent at h
  split at h
  next down unsigned signs =>
    obtain ⟨c, d, more, rfl, value⟩ :
        ∃ c d more, unsigned = c :: more ∧ digitValue? c = some d := by
      cases unsigned with
      | nil => nomatch h
      | cons c more =>
        cases value : digitValue? c with
        | some d => exact ⟨c, d, more, rfl, value⟩
        | none =>
          simp only [value] at h
          nomatch h
    split at signs
    all_goals obtain ⟨rfl, rfl⟩ := Prod.mk.inj signs
    · exact ⟨['+'], c, d, more, rfl, .inr (.inl rfl), value⟩
    · exact ⟨['-'], c, d, more, rfl, .inr (.inr rfl), value⟩
    · exact ⟨[], c, d, more, rfl, .inl rfl, value⟩

theorem takes_exponent (h : exponent negative digits start cs = .ok (x, rest)) :
    Takes (exponent negative digits start) SignedDigits cs x rest := by
  obtain ⟨sign, c, d, more, rfl, signed, value⟩ := exists_of_exponent h
  rw [exponent_append signed value] at h
  obtain ⟨ds, rfl, others, takes⟩ := takes_exponentDigits h
  have digit : c.isDigit = true := by
    rw [← Bool.not_eq_false, ← digitValue?_eq_none_iff, value]
    nofun
  refine ⟨sign ++ c :: ds, by simp, ⟨sign, c :: ds, rfl, signed, nofun,
    List.forall_mem_cons.mpr ⟨digit, others⟩⟩, fun behind ends => ?_⟩
  rw [List.append_assoc, List.cons_append, exponent_append signed value, takes behind ends]

theorem fractionTail_of_ends (ends : Ends cs) :
    fractionTail negative digits power cs = finishFraction negative digits power cs := by
  obtain rfl | ⟨c, mem, more, rfl⟩ := ends.cases
  · rfl
  · simp only [enders, List.mem_cons, List.not_mem_nil, or_false] at mem
    obtain rfl | rfl | rfl | rfl | rfl | rfl | rfl := mem <;> rfl

theorem takes_fractionTail (h : fractionTail negative digits power cs = .ok (x, rest)) :
    Takes (fractionTail negative digits power) Exponent cs x rest := by
  unfold fractionTail at h
  split at h
  · obtain ⟨_, rfl, ⟨sign, ds, rfl, signed, form⟩, takes⟩ := takes_exponent h
    exact ⟨_, rfl, .digits (.inl rfl) signed form, takes⟩
  · obtain ⟨_, rfl, ⟨sign, ds, rfl, signed, form⟩, takes⟩ := takes_exponent h
    exact ⟨_, rfl, .digits (.inr rfl) signed form, takes⟩
  · obtain ⟨_, rfl, rfl, takes⟩ := takes_finishFraction h
    refine ⟨[], rfl, .none, fun behind ends => ?_⟩
    rw [List.nil_append, fractionTail_of_ends ends]
    exact takes behind ends

theorem Exponent.noDigit_append {text : List Char} (h : Exponent text) (none : NoDigit more) :
    NoDigit (text ++ more) := by
  cases h with
  | none => exact none
  | digits marked => exact noDigit_cons (by obtain rfl | rfl := marked <;> rfl)

/-- Behind the digits of a fraction its exponent is read. -/
theorem fraction_digits (h : Digits ds) (none : NoDigit more) :
    fraction negative digits power (ds ++ more) =
      fractionTail negative (takeDigits digits 0 ds).1 (power - (takeDigits digits 0 ds).2.1)
        more := by
  obtain ⟨digit, count⟩ := takeDigits_left h.2 digits 0
  rw [fraction, takeDigits_append h.2 none]
  simp only
  generalize takeDigits digits 0 ds = taken at digit count
  obtain ⟨held, many, left⟩ := taken
  cases left with
  | nil =>
    have some : many ≠ 0 := by
      have all : many = 0 + ds.length := count rfl
      have := List.length_pos_iff.mpr h.1
      omega
    cases more with
    | nil => simp [some]
    | cons c more => simp [some, none c more rfl]
  | cons d left =>
    obtain ⟨first, others⟩ := List.forall_mem_cons.mp digit
    rw [List.cons_append]
    simp only [first, if_true]
    rw [← List.cons_append, skipDigits_append digit none]

theorem fraction_ne_ok (none : NoDigit cs) : fraction negative digits power cs ≠ .ok (x, rest) := by
  rw [fraction, takeDigits_of_noDigit none]
  cases cs with
  | nil => nofun
  | cons c more =>
    simp only [none c more rfl]
    nofun

/-- What stands behind the point of a number. -/
def PointDigits (text : List Char) : Prop :=
  ∃ ds power, text = ds ++ power ∧ Digits ds ∧ Exponent power

theorem takes_fraction (h : fraction negative digits power cs = .ok (x, rest)) :
    Takes (fraction negative digits power) PointDigits cs x rest := by
  obtain ⟨ds, more, rfl, digit, none⟩ := exists_digits cs
  cases ds with
  | nil => exact absurd h (fraction_ne_ok none)
  | cons d ds =>
    have some : Digits (d :: ds) := ⟨nofun, digit⟩
    rw [fraction_digits some none] at h
    obtain ⟨text, rfl, form, takes⟩ := takes_fractionTail h
    refine ⟨_, (List.append_assoc ..).symm, ⟨_, text, rfl, some, form⟩, fun behind ends => ?_⟩
    rw [List.append_assoc, fraction_digits some (form.noDigit_append ends.noDigit)]
    exact takes behind ends

end Fractions

section Wholes

variable {cs ds more rest left : List Char} {c : Char} {v : Json} {negative : Bool}
variable {digits count : Nat}

/-- What stands behind the digits in front of the point. -/
def WholeTail (text : List Char) : Prop :=
  ∃ point power, text = point ++ power ∧ Fraction point ∧ Exponent power

/-- The number of digits that fit. -/
def wholeValue (negative : Bool) (digits : Nat) : Json :=
  if !negative then .int digits
  else if 0 < digits && digits ≤ 1 <<< 63 then .int (-digits)
  else .float (signed true (Binary64.ofNat digits))

/-- What is read behind the digits in front of the point, so many of which do not fit. -/
def wholeEnd (negative : Bool) (digits count : Nat) : Reader Json
  | '.' :: rest => (fraction negative digits count rest).map fun read => (.float read.1, read.2)
  | 'e' :: rest => (exponent negative digits count rest).map fun read => (.float read.1, read.2)
  | 'E' :: rest => (exponent negative digits count rest).map fun read => (.float read.1, read.2)
  | rest =>
    if count ≠ 0 then
      (finishFraction negative digits count rest).map fun read => (.float read.1, read.2)
    else .ok (wholeValue negative digits, rest)

theorem wholeTail_append (digit : ∀ c ∈ left, c.isDigit = true) (none : NoDigit more) :
    wholeTail negative digits (left ++ more) = wholeEnd negative digits left.length more := by
  have mapped (read : Except Stop (Binary64 × List Char)) :
      (read >>= fun read => pure (Json.float read.1, read.2)) =
        read.map fun read => (Json.float read.1, read.2) := by
    cases read <;> rfl
  unfold wholeTail
  simp only [skipDigits_append digit none, takeWhile_isDigit_append digit none]
  split
  · exact mapped _
  · exact mapped _
  · exact mapped _
  next point small large =>
    rw [wholeEnd]
    · cases left with
      | cons c left => exact mapped _
      | nil =>
        have all : ¬ (!([] : List Char).isEmpty) = true := by decide
        have short : ¬ ([] : List Char).length ≠ 0 := fun none => none rfl
        rw [if_neg all, if_neg short, wholeValue]
        split
        · rfl
        · split <;> rfl
    · exact point
    · exact small
    · exact large

theorem wholeEnd_of_ends (ends : Ends cs) :
    wholeEnd negative digits count cs =
      if count ≠ 0 then
        (finishFraction negative digits count cs).map fun read => (.float read.1, read.2)
      else .ok (wholeValue negative digits, cs) := by
  obtain rfl | ⟨c, mem, more, rfl⟩ := ends.cases
  · rfl
  · simp only [enders, List.mem_cons, List.not_mem_nil, or_false] at mem
    obtain rfl | rfl | rfl | rfl | rfl | rfl | rfl := mem <;> rfl

theorem map_eq_ok_iff {ε α β : Type} {read : Except ε α} {f : α → β} {y : β} :
    read.map f = .ok y ↔ ∃ x, read = .ok x ∧ f x = y := by
  cases read with
  | error e => exact iff_of_false nofun (by rintro ⟨x, same, -⟩; nomatch same)
  | ok x => exact ⟨fun same => ⟨x, rfl, Except.ok.inj same⟩, by rintro ⟨_, ⟨⟩, rfl⟩; rfl⟩

theorem takes_wholeEnd (h : wholeEnd negative digits count cs = .ok (v, rest)) :
    Takes (wholeEnd negative digits count) WholeTail cs v rest := by
  unfold wholeEnd at h
  split at h
  · obtain ⟨⟨x, _⟩, read, made⟩ := map_eq_ok_iff.mp h
    obtain ⟨rfl, rfl⟩ := Prod.mk.inj made
    obtain ⟨_, rfl, ⟨ds, power, rfl, form, exponent⟩, takes⟩ := takes_fraction read
    refine ⟨_, rfl, ⟨'.' :: ds, power, rfl, .digits form, exponent⟩, fun behind ends => ?_⟩
    exact map_eq_ok_iff.mpr ⟨_, takes behind ends, rfl⟩
  · obtain ⟨⟨x, _⟩, read, made⟩ := map_eq_ok_iff.mp h
    obtain ⟨rfl, rfl⟩ := Prod.mk.inj made
    obtain ⟨_, rfl, ⟨sign, ds, rfl, signed, form⟩, takes⟩ := takes_exponent read
    refine ⟨_, rfl, ⟨[], _, rfl, .none, .digits (.inl rfl) signed form⟩, fun behind ends => ?_⟩
    exact map_eq_ok_iff.mpr ⟨_, takes behind ends, rfl⟩
  · obtain ⟨⟨x, _⟩, read, made⟩ := map_eq_ok_iff.mp h
    obtain ⟨rfl, rfl⟩ := Prod.mk.inj made
    obtain ⟨_, rfl, ⟨sign, ds, rfl, signed, form⟩, takes⟩ := takes_exponent read
    refine ⟨_, rfl, ⟨[], _, rfl, .none, .digits (.inr rfl) signed form⟩, fun behind ends => ?_⟩
    exact map_eq_ok_iff.mpr ⟨_, takes behind ends, rfl⟩
  · split at h
    next long =>
      obtain ⟨⟨x, _⟩, read, made⟩ := map_eq_ok_iff.mp h
      obtain ⟨rfl, rfl⟩ := Prod.mk.inj made
      obtain ⟨_, rfl, rfl, takes⟩ := takes_finishFraction read
      refine ⟨[], rfl, ⟨[], [], rfl, .none, .none⟩, fun behind ends => ?_⟩
      rw [List.nil_append, wholeEnd_of_ends ends, if_pos long]
      exact map_eq_ok_iff.mpr ⟨_, takes behind ends, rfl⟩
    next short =>
      obtain ⟨rfl, rfl⟩ := Prod.mk.inj (Except.ok.inj h)
      refine ⟨[], rfl, ⟨[], [], rfl, .none, .none⟩, fun behind ends => ?_⟩
      rw [List.nil_append, wholeEnd_of_ends ends, if_neg short]

theorem WholeTail.noDigit_append {text : List Char} (h : WholeTail text) (none : NoDigit more) :
    NoDigit (text ++ more) := by
  obtain ⟨point, power, rfl, fraction, exponent⟩ := h
  cases fraction with
  | none => exact exponent.noDigit_append none
  | digits => exact noDigit_cons rfl

/-- What stands behind the sign of a number. -/
def Unsigned (text : List Char) : Prop :=
  ∃ whole tail, text = whole ++ tail ∧ Digits whole ∧ (whole.head? = some '0' → whole = ['0']) ∧
    WholeTail tail

/-- The digits in front of the point are read up to the last one. -/
theorem numberAfterSign_digits (some : Digits ds) (zero : ds.head? = Option.some '0' → ds = ['0'])
    (none : NoDigit more) :
    numberAfterSign negative (ds ++ more) =
      wholeEnd negative (takeDigits 0 0 ds).1 (takeDigits 0 0 ds).2.2.length more := by
  obtain ⟨left, -⟩ := takeDigits_left some.2 0 0
  rw [← wholeTail_append left none]
  cases ds with
  | nil => exact absurd rfl some.1
  | cons d ds =>
    by_cases first : d = '0'
    · subst first
      obtain ⟨-, rfl⟩ := List.cons.inj (zero rfl)
      cases more with
      | nil => rfl
      | cons c more =>
        rw [List.singleton_append, numberAfterSign]
        simp only [none c more rfl]
        rfl
    · have digit : d.isDigit = true := some.2 d List.mem_cons_self
      have taken := takeDigits_append some.2 none 0 0
      rw [List.cons_append] at taken
      rw [List.cons_append, numberAfterSign]
      · simp only [digit, if_true, taken]
      · exact first

/-- A number that is read begins with digits behind its sign. -/
theorem exists_of_numberAfterSign (h : numberAfterSign negative cs = .ok (v, rest)) :
    ∃ ds more, cs = ds ++ more ∧ Digits ds ∧ (ds.head? = some '0' → ds = ['0']) ∧
      NoDigit more := by
  unfold numberAfterSign at h
  split at h
  · nomatch h
  · have zero : Digits ['0'] := ⟨nofun, List.forall_mem_singleton.mpr rfl⟩
    split at h
    next c more =>
      split at h
      · nomatch h
      next other => exact ⟨['0'], _, rfl, zero, fun _ => rfl, noDigit_cons (by simpa using other)⟩
    · exact ⟨['0'], [], rfl, zero, fun _ => rfl, noDigit_nil⟩
  next c cs nonzero =>
    split at h
    next digit =>
      obtain ⟨ds, more, same, digits, none⟩ := exists_digits (c :: cs)
      cases ds with
      | nil =>
        rw [none c cs same.symm] at digit
        nomatch digit
      | cons d ds =>
        obtain ⟨rfl, -⟩ := List.cons.inj same
        refine ⟨c :: ds, more, same, ⟨nofun, digits⟩, fun zero => ?_, none⟩
        exact absurd (Option.some.inj zero) nonzero
    · nomatch h

theorem takes_numberAfterSign (h : numberAfterSign negative cs = .ok (v, rest)) :
    Takes (numberAfterSign negative) Unsigned cs v rest := by
  obtain ⟨ds, more, rfl, digits, zero, none⟩ := exists_of_numberAfterSign h
  rw [numberAfterSign_digits digits zero none] at h
  obtain ⟨tail, rfl, form, takes⟩ := takes_wholeEnd h
  refine ⟨ds ++ tail, (List.append_assoc ..).symm, ⟨ds, tail, rfl, digits, zero, form⟩,
    fun behind ends => ?_⟩
  rw [List.append_assoc, numberAfterSign_digits digits zero (form.noDigit_append ends.noDigit)]
  exact takes behind ends

theorem number_of_ne (plain : c ≠ '-') (cs : List Char) :
    number c cs = numberAfterSign false (c :: cs) := if_neg plain

/-- What is read as a number has the form of one, and is read so wherever it stands. -/
theorem takes_number (h : number c cs = .ok (v, rest)) :
    Takes (number c) (fun text => NumberForm (c :: text)) cs v rest := by
  by_cases minus : c = '-'
  · subst minus
    have signed : numberAfterSign true cs = .ok (v, rest) := h
    obtain ⟨_, rfl, ⟨whole, _, rfl, digits, zero, point, power, rfl, fraction, exponent⟩, takes⟩ :=
      takes_numberAfterSign signed
    exact ⟨_, rfl, .parts (.inr rfl) digits zero fraction exponent, takes⟩
  · rw [number_of_ne minus] at h
    obtain ⟨_, same, ⟨whole, _, rfl, digits, zero, point, power, rfl, fraction, exponent⟩, takes⟩ :=
      takes_numberAfterSign h
    cases whole with
    | nil => exact absurd rfl digits.1
    | cons d whole =>
      obtain ⟨rfl, rfl⟩ := List.cons.inj same
      refine ⟨_, rfl, .parts (.inl rfl) digits zero fraction exponent, fun behind ends => ?_⟩
      rw [number_of_ne minus]
      exact takes behind ends

end Wholes

/-- All of a text is taken for a value, unless that is a number too large. -/
def TakesAll {α : Type} (read : Except Stop (α × List Char)) : Prop :=
  (∃ x, read = .ok (x, [])) ∨ ∃ left, read = .error ⟨.numberOutOfRange, left⟩

section Forms

variable {text ds : List Char} {c : Char} {negative down : Bool} {digits n count : Nat}
variable {start power : Int}

theorem TakesAll.map {α β : Type} {read : Except Stop (α × List Char)} (h : TakesAll read)
    (f : α → β) : TakesAll (read.map fun read => (f read.1, read.2)) := by
  obtain ⟨x, rfl⟩ | ⟨left, rfl⟩ := h
  · exact .inl ⟨f x, rfl⟩
  · exact .inr ⟨left, rfl⟩

theorem takesAll_finishFraction : TakesAll (finishFraction negative digits power []) := by
  rw [finishFraction]
  split
  · exact .inl ⟨_, rfl⟩
  · exact .inr ⟨_, rfl⟩

theorem takesAll_exponentDigits (digit : ∀ c ∈ ds, c.isDigit = true) :
    TakesAll (exponentDigits negative digits start down n ds) := by
  induction ds generalizing n with
  | nil => exact takesAll_finishFraction
  | cons c ds ih =>
    obtain ⟨first, others⟩ := List.forall_mem_cons.mp digit
    obtain ⟨d, value⟩ := digitValue?_of_isDigit first
    rw [exponentDigits, value]
    dsimp only
    split
    · exact ih others
    · split
      · exact .inr ⟨_, rfl⟩
      · rw [← List.append_nil ds, skipDigits_append others noDigit_nil]
        exact .inl ⟨_, rfl⟩

theorem takesAll_exponent (form : SignedDigits text) :
    TakesAll (exponent negative digits start text) := by
  obtain ⟨sign, ds, rfl, signed, some, digit⟩ := form
  obtain ⟨c, ds, rfl⟩ := List.exists_cons_of_ne_nil some
  obtain ⟨first, others⟩ := List.forall_mem_cons.mp digit
  obtain ⟨d, value⟩ := digitValue?_of_isDigit first
  rw [exponent_append signed value]
  exact takesAll_exponentDigits others

theorem takesAll_fractionTail (form : Exponent text) :
    TakesAll (fractionTail negative digits power text) := by
  cases form with
  | none => exact takesAll_finishFraction
  | @digits letter _ _ marked signed some =>
    cases marked with
    | inl small => exact small ▸ takesAll_exponent ⟨_, _, rfl, signed, some⟩
    | inr large => exact large ▸ takesAll_exponent ⟨_, _, rfl, signed, some⟩

theorem takesAll_fraction (form : PointDigits text) :
    TakesAll (fraction negative digits power text) := by
  obtain ⟨ds, behind, rfl, some, form⟩ := form
  have none : NoDigit (behind ++ []) := form.noDigit_append noDigit_nil
  rw [List.append_nil] at none
  rw [fraction_digits some none]
  exact takesAll_fractionTail form

theorem takesAll_wholeEnd (form : WholeTail text) :
    TakesAll (wholeEnd negative digits count text) := by
  obtain ⟨_, _, rfl, fraction, exponent⟩ := form
  cases fraction with
  | digits some => exact (takesAll_fraction ⟨_, _, rfl, some, exponent⟩).map Json.float
  | none =>
    cases exponent with
    | digits marked signed some =>
      have form : SignedDigits _ := ⟨_, _, rfl, signed, some⟩
      cases marked with
      | inl small => exact small ▸ (takesAll_exponent form).map Json.float
      | inr large => exact large ▸ (takesAll_exponent form).map Json.float
    | none =>
      rw [List.append_nil, wholeEnd_of_ends ends_nil]
      split
      · exact takesAll_finishFraction.map Json.float
      · exact .inl ⟨_, rfl⟩

theorem takesAll_numberAfterSign (form : Unsigned text) :
    TakesAll (numberAfterSign negative text) := by
  obtain ⟨whole, behind, rfl, some, zero, form⟩ := form
  have none : NoDigit (behind ++ []) := form.noDigit_append noDigit_nil
  rw [List.append_nil] at none
  rw [numberAfterSign_digits some zero none]
  exact takesAll_wholeEnd form

/-- A text of the form of a number is one, unless the number is too large. -/
theorem takesAll_number (form : NumberForm (c :: text)) : TakesAll (number c text) := by
  generalize all : c :: text = cs at form
  obtain ⟨signed, some, zero, fraction, exponent⟩ := form
  have unsigned : Unsigned _ := ⟨_, _, rfl, some, zero, _, _, rfl, fraction, exponent⟩
  obtain rfl | rfl := signed
  · rw [List.nil_append] at all
    obtain ⟨d, ds, rfl⟩ := List.exists_cons_of_ne_nil some.1
    obtain ⟨rfl, -⟩ := List.cons.inj all
    have digit : c.isDigit = true := some.2 c List.mem_cons_self
    rw [number_of_ne (by rintro rfl; nomatch digit), all]
    exact takesAll_numberAfterSign unsigned
  · obtain ⟨rfl, rfl⟩ := List.cons.inj all
    exact takesAll_numberAfterSign unsigned

end Forms

end Rehearsal.Json
