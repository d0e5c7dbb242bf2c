import Rehearsal.Proofs.Time.Calendar
import Rehearsal.Proofs.Time.Digits

/-!
# Instants are read back

The text of an instant is read as that instant, to the nanosecond and with its leap second, if
the instant is one that can be shown at all: a second of its day, in the years that dates may
have, with a leap second at the end of a minute only. Nothing else is ever read, whatever blanks,
offsets and fractions a text has: the hands of the clock stay within their bounds, and an offset
of whole minutes does not move the second hand.
-/

namespace Rehearsal.Instant

open Text
open Json (ok_bind bind_eq_ok_iff)

/-- What an instant of the years that dates may have looks like: the second is one of its day,
and only the last second of a minute may be followed by a leap second. -/
structure Representable (t : Instant) : Prop where
  first : Date.toDays ⟨Date.minYear, 1, 1⟩ ≤ t.day
  last : t.day ≤ Date.toDays ⟨Date.maxYear, 12, 31⟩
  second : t.second < 86400
  nano : t.nano < 2 * nanosPerSecond
  leap : nanosPerSecond ≤ t.nano → t.second % 60 = 59

/-- Every second of every day of the years that dates may have can be shown. -/
theorem representable_of_year {t : Instant} (first : Date.minYear ≤ (Date.ofDays t.day).year)
    (last : (Date.ofDays t.day).year ≤ Date.maxYear) (second : t.second < 86400)
    (nano : t.nano < nanosPerSecond) : t.Representable where
  first := (Date.firstDay_le_iff _ _).mpr first
  last := (Date.le_lastDay_iff _ _).mpr last
  second := second
  nano := Nat.lt_of_lt_of_le nano (Nat.le_mul_of_pos_left _ (by decide))
  leap late := absurd nano (Nat.not_lt.mpr late)

/-! ### Instants are read back -/

theorem mark_cons {m : Char} (rest : List Char) (dark : isBlank m = false) :
    mark m (m :: rest) = .ok rest := by
  rw [mark, trimStart, List.dropWhile_cons_of_neg (by simp [dark])]
  exact if_pos rfl

/-- A fraction is left out, or written with as many digits as show all of it. -/
theorem fractionText_cases {nano : Nat} (fits : nano < nanosPerSecond) :
    nano = 0 ∧ fractionText nano = [] ∨
      ∃ width n, (0 < width ∧ width ≤ 9) ∧ n < 10 ^ width ∧ n * 10 ^ (9 - width) = nano ∧
        fractionText nano = '.' :: padded width n := by
  rw [nanosPerSecond] at fits
  rw [fractionText]
  by_cases zero : nano = 0
  · exact .inl ⟨zero, if_pos zero⟩
  rw [if_neg zero]
  by_cases millis : nano % 1000000 = 0
  · exact .inr ⟨3, nano / 1000000, by decide, by omega,
      Nat.div_mul_cancel (Nat.dvd_of_mod_eq_zero millis), if_pos millis⟩
  rw [if_neg millis]
  by_cases micros : nano % 1000 = 0
  · exact .inr ⟨6, nano / 1000, by decide, by omega,
      Nat.div_mul_cancel (Nat.dvd_of_mod_eq_zero micros), if_pos micros⟩
  · exact .inr ⟨9, nano, by decide, fits, Nat.mul_one nano, if_neg micros⟩

/-- A fraction is read back. -/
theorem fractionOfSecond_fractionText {nano : Nat} (fits : nano < nanosPerSecond) :
    fractionOfSecond (fractionText nano ++ ['Z']) = .ok (nano, ['Z']) := by
  obtain ⟨rfl, empty⟩ | ⟨width, n, ⟨wide, most⟩, short, value, written⟩ := fractionText_cases fits
  · rw [empty]
    rfl
  · have length := length_padded wide short
    have read : digits 9 (padded width n ++ ['Z']) = .ok (n, ['Z']) := by
      rw [digits_append (padded_ne_nil width n) (fun d => isDigit_of_mem_padded) (by omega) rfl,
        ofDigitChars_padded]
    have count : (padded width n ++ ['Z']).length - ['Z'].length = width := by
      rw [List.length_append, length, Nat.add_sub_cancel]
    rw [written, List.cons_append, fractionOfSecond, read, ok_bind]
    dsimp only
    rw [count]
    exact congrArg (fun nano => Except.ok (nano, ['Z'])) value

/-- No digit follows the seconds. -/
theorem exists_cons_fractionText {nano : Nat} (fits : nano < nanosPerSecond) :
    ∃ c rest, fractionText nano ++ ['Z'] = c :: rest ∧ c.isDigit = false := by
  obtain ⟨-, empty⟩ | ⟨width, n, -, -, -, written⟩ := fractionText_cases fits
  · exact ⟨'Z', [], by rw [empty]; rfl, rfl⟩
  · exact ⟨'.', padded width n ++ ['Z'], by rw [written]; rfl, rfl⟩

/-- A clock of universal time shows the instant itself. -/
theorem ofLocal_of_isValid {date : Date} {second nano : Nat} (valid : date.isValid = true)
    (first : Date.minYear ≤ date.year) (last : date.year ≤ Date.maxYear) (within : second < 86400)
    (low : Date.toDays ⟨Date.minYear, 1, 1⟩ ≤ date.toDays)
    (high : date.toDays ≤ Date.toDays ⟨Date.maxYear, 12, 31⟩) :
    ofLocal date second nano 0 = .ok ⟨date.toDays, second, nano⟩ := by
  have day : date.toDays + ((second : Int) - 0) / 86400 = date.toDays := by omega
  have clock : (((second : Int) - 0) % 86400).toNat = second := by omega
  have known : ¬((!date.isValid || decide (date.year < Date.minYear) ||
      decide (Date.maxYear < date.year)) = true) := by
    simp [valid, first, last]
  have reached : ¬((decide (date.toDays < Date.toDays ⟨Date.minYear, 1, 1⟩) ||
      decide (Date.toDays ⟨Date.maxYear, 12, 31⟩ < date.toDays)) = true) := by
    simp [low, high]
  rw [ofLocal, if_neg known, if_neg (by decide)]
  dsimp only
  rw [day, clock, if_neg reached]

/-- A leap second is told from the sixtieth second, and its nanoseconds from the fraction. -/
theorem Representable.sixtieth {t : Instant} (h : t.Representable) {second nano : Nat}
    (shown : second = t.second % 60 + if nanosPerSecond ≤ t.nano then 1 else 0)
    (fraction : nano = if nanosPerSecond ≤ t.nano then t.nano - nanosPerSecond else t.nano) :
    second ≤ 60 ∧ nano < nanosPerSecond ∧
      (if (second == 60) = true then 59 else second) = t.second % 60 ∧
      (if (second == 60) = true then nano + nanosPerSecond else nano) = t.nano := by
  obtain ⟨-, -, -, part, last⟩ := h
  by_cases leap : nanosPerSecond ≤ t.nano
  · have minute := last leap
    rw [if_pos leap, minute] at shown
    rw [if_pos leap] at fraction
    have late : (second == 60) = true := by rw [shown]; rfl
    rw [if_pos late, if_pos late, fraction]
    exact ⟨Nat.le_of_eq shown, by omega, minute.symm, Nat.sub_add_cancel leap⟩
  · rw [if_neg leap] at shown fraction
    have early : ¬(second == 60) = true := by
      rw [beq_iff_eq]
      omega
    rw [if_neg early, if_neg early]
    exact ⟨by omega, by omega, shown, fraction⟩

/-- The text of an instant is read as that instant, leap seconds included. -/
theorem parse_text {t : Instant} (h : t.Representable) : parse t.text = .ok t := by
  have valid := Date.isValid_ofDays t.day
  have back := Date.toDays_ofDays t.day
  have first := (Date.firstDay_le_iff _ _).mp h.first
  have last := (Date.le_lastDay_iff _ _).mp h.last
  have within := h.second
  have hour : t.second / 3600 ≤ 23 := by omega
  have minute : t.second / 60 % 60 ≤ 59 := by omega
  have clock : t.second / 3600 * 3600 + t.second / 60 % 60 * 60 + t.second % 60 = t.second := by
    omega
  rw [text]
  generalize Date.ofDays t.day = date at valid back first last ⊢
  generalize shown : (t.second % 60 + if nanosPerSecond ≤ t.nano then 1 else 0) = second
  generalize fraction :
    (if nanosPerSecond ≤ t.nano then t.nano - nanosPerSecond else t.nano) = nano
  obtain ⟨sixty, part, secondHand, nanoHand⟩ := h.sixtieth shown.symm fraction.symm
  obtain ⟨⟨january, december⟩, start, finish⟩ := Date.bounds_of_isValid valid
  obtain ⟨c, rest, behind, other⟩ := exists_cons_fractionText part
  have placed : ofLocal date t.second t.nano 0 = .ok ⟨date.toDays, t.second, t.nano⟩ :=
    ofLocal_of_isValid valid first last within (back ▸ h.first) (back ▸ h.last)
  -- each part is read up to the mark behind it, which is no digit
  simp only [List.append_assoc, List.cons_append]
  rw [Date.minYear] at first
  rw [Date.maxYear] at last
  rw [parse, year_yearText (by omega) (by omega) rfl, ok_bind]
  dsimp only
  rw [mark_cons _ rfl, ok_bind, twoDigits_padded january december (by omega) rfl, ok_bind]
  dsimp only
  rw [mark_cons _ rfl, ok_bind, twoDigits_padded start finish (by omega) rfl, ok_bind]
  dsimp only
  rw [if_pos (by decide), pure_bind, twoDigits_padded (Nat.zero_le _) hour (by omega) rfl, ok_bind]
  dsimp only
  rw [mark_cons _ rfl, ok_bind, twoDigits_padded (Nat.zero_le _) minute (by omega) rfl, ok_bind]
  dsimp only
  rw [mark_cons _ rfl, ok_bind, behind,
    twoDigits_padded (Nat.zero_le _) sixty (by omega) other, ok_bind]
  dsimp only
  rw [← behind, fractionOfSecond_fractionText part, ok_bind]
  change ofLocal date _ _ 0 = _
  rw [secondHand, nanoHand, clock, placed, back]

/-! ### What is read can be shown -/

/-- A fraction of a second is less than a second. -/
theorem lt_of_fractionOfSecond {nano : Nat} {cs rest : List Char}
    (read : fractionOfSecond cs = .ok (nano, rest)) : nano < nanosPerSecond := by
  rw [fractionOfSecond.eq_def] at read
  split at read
  case h_1 cs =>
    obtain ⟨⟨n, more⟩, taken, value⟩ := bind_eq_ok_iff.mp read
    obtain ⟨ds, rfl, all, short, rfl⟩ := exists_of_digits taken
    have count : (ds ++ more).length - more.length = ds.length := by
      rw [List.length_append, Nat.add_sub_cancel]
    obtain ⟨rfl, -⟩ := Prod.mk.inj (Except.ok.inj value)
    rw [count]
    calc Nat.ofDigitChars 10 ds 0 * 10 ^ (9 - ds.length)
        < 10 ^ ds.length * 10 ^ (9 - ds.length) :=
          Nat.mul_lt_mul_of_pos_right (ofDigitChars_lt all) (Nat.pow_pos (by decide))
      _ = nanosPerSecond := by rw [← Nat.pow_add, Nat.add_sub_cancel' short]; rfl
  case h_2 =>
    obtain ⟨rfl, -⟩ := Prod.mk.inj (Except.ok.inj read)
    decide

/-- An offset is one of whole minutes. -/
theorem dvd_of_offsetSize {size : Nat} {cs rest : List Char}
    (read : offsetSize cs = .ok (size, rest)) : 60 ∣ size := by
  obtain ⟨⟨hours, more⟩, -, read⟩ := bind_eq_ok_iff.mp read
  cases hours with
  | none => nomatch read
  | some hours =>
    obtain ⟨⟨minutes, behind⟩, -, read⟩ := bind_eq_ok_iff.mp read
    cases minutes with
    | none => nomatch read
    | some minutes =>
      dsimp only at read
      by_cases small : minutes.1 ≤ 5
      · rw [if_pos small] at read
        obtain ⟨rfl, -⟩ := Prod.mk.inj (Except.ok.inj read)
        omega
      · rw [if_neg small] at read
        nomatch read

theorem dvd_of_offset {shift : Int} {cs rest : List Char}
    (read : offset cs = .ok (shift, rest)) : 60 ∣ shift := by
  have ahead {more : List Char}
      (read : (offsetSize more >>= fun size => .ok ((size.1 : Int), size.2)) = .ok (shift, rest)) :
      60 ∣ shift := by
    obtain ⟨size, taken, read⟩ := bind_eq_ok_iff.mp read
    obtain ⟨rfl, -⟩ := Prod.mk.inj (Except.ok.inj read)
    exact Int.natCast_dvd_natCast.mpr (dvd_of_offsetSize taken)
  have behind {more : List Char}
      (read : (offsetSize more >>= fun size => .ok (-(size.1 : Int), size.2)) = .ok (shift, rest)) :
      60 ∣ shift := by
    obtain ⟨size, taken, read⟩ := bind_eq_ok_iff.mp read
    obtain ⟨rfl, -⟩ := Prod.mk.inj (Except.ok.inj read)
    exact Int.dvd_neg.mpr (Int.natCast_dvd_natCast.mpr (dvd_of_offsetSize taken))
  have universal {more : List Char}
      (read : (pure ((0 : Int), more) : Except Refusal _) = .ok (shift, rest)) : 60 ∣ shift := by
    obtain ⟨rfl, -⟩ := Prod.mk.inj (Except.ok.inj read)
    exact Int.dvd_zero 60
  rw [offset] at read
  split at read
  case h_1 => cases read
  case h_2 =>
    split at read
    case h_1 | h_2 | h_3 => exact universal read
    case h_4 => exact ahead read
    case h_5 | h_6 => exact behind read
    case h_7 => cases read

/-- A moment of the clock of universal time is as far into its minute as on any other clock. -/
theorem of_ofLocal {date : Date} {second nano : Nat} {shift : Int} {t : Instant}
    (made : ofLocal date second nano shift = .ok t) (minutes : 60 ∣ shift) :
    (Date.toDays ⟨Date.minYear, 1, 1⟩ ≤ t.day ∧ t.day ≤ Date.toDays ⟨Date.maxYear, 12, 31⟩) ∧
      t.second < 86400 ∧ t.second % 60 = second % 60 ∧ t.nano = nano := by
  rw [ofLocal] at made
  split at made
  · nomatch made
  split at made
  · nomatch made
  dsimp only at made
  split at made
  case isTrue => nomatch made
  case isFalse reached =>
    simp only [Bool.or_eq_true, decide_eq_true_eq, not_or, Int.not_lt] at reached
    obtain rfl := Except.ok.inj made
    refine ⟨reached, ?_, ?_, rfl⟩
    · dsimp only
      omega
    · dsimp only
      omega

/-- What is read are the hands of a clock and how far it is ahead. -/
theorem exists_of_parse {cs : List Char} {t : Instant} (read : parse cs = .ok t) :
    ∃ date hour minute second nano shift,
      hour ≤ 23 ∧ minute ≤ 59 ∧ second ≤ 60 ∧ nano < nanosPerSecond ∧ 60 ∣ shift ∧
      ofLocal date (hour * 3600 + minute * 60 + if (second == 60) = true then 59 else second)
        (if (second == 60) = true then nano + nanosPerSecond else nano) shift = .ok t := by
  obtain ⟨y, -, read⟩ := bind_eq_ok_iff.mp read
  obtain ⟨_, -, read⟩ := bind_eq_ok_iff.mp read
  obtain ⟨month, -, read⟩ := bind_eq_ok_iff.mp read
  obtain ⟨_, -, read⟩ := bind_eq_ok_iff.mp read
  obtain ⟨⟨day, behind⟩, -, read⟩ := bind_eq_ok_iff.mp read
  cases behind with
  | nil => nomatch read
  | cons c clock =>
    dsimp only at read
    split at read
    case isFalse => nomatch read
    case isTrue =>
      rw [pure_bind] at read
      obtain ⟨hour, hours, read⟩ := bind_eq_ok_iff.mp read
      obtain ⟨_, -, read⟩ := bind_eq_ok_iff.mp read
      obtain ⟨minute, minutes, read⟩ := bind_eq_ok_iff.mp read
      obtain ⟨_, -, read⟩ := bind_eq_ok_iff.mp read
      obtain ⟨second, seconds, read⟩ := bind_eq_ok_iff.mp read
      obtain ⟨nano, fraction, read⟩ := bind_eq_ok_iff.mp read
      obtain ⟨shift, ahead, read⟩ := bind_eq_ok_iff.mp read
      split at read
      case isTrue => nomatch read
      case isFalse =>
        exact ⟨_, hour.1, minute.1, second.1, nano.1, shift.1, (bounds_of_twoDigits hours).2,
          (bounds_of_twoDigits minutes).2, (bounds_of_twoDigits seconds).2,
          lt_of_fractionOfSecond fraction, dvd_of_offset ahead, read⟩

/-- Only instants are read that can be shown. -/
theorem representable_of_parse {cs : List Char} {t : Instant} (read : parse cs = .ok t) :
    t.Representable := by
  obtain ⟨date, hour, minute, second, nano, shift, hours, minutes, seconds, part, whole, made⟩ :=
    exists_of_parse read
  obtain ⟨⟨first, last⟩, within, hand, value⟩ := of_ofLocal made whole
  by_cases sixty : (second == 60) = true
  · rw [if_pos sixty] at hand value
    exact ⟨first, last, within, by omega, fun _ => by omega⟩
  · rw [if_neg sixty] at value
    exact ⟨first, last, within, by omega, fun late => by omega⟩

/-- The instants that a text stands for are those that are read back from their own text. -/
theorem parse_text_iff (t : Instant) : parse t.text = .ok t ↔ t.Representable :=
  ⟨representable_of_parse, parse_text⟩

end Rehearsal.Instant
