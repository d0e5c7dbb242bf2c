import Rehearsal.Proofs.Json.Text

/-!
# Compact text has no controls

Compact text has no control characters in it, whatever keys and strings it is the text of:
those that stand in a string are escaped, and nothing else in the text is one. So it is
always written on one line.
-/

namespace Rehearsal

namespace Text

/-- A text without control characters. -/
def IsPrinted (text : List Char) : Prop := ∀ c ∈ text, 0x20 ≤ c.toNat

instance : DecidablePred IsPrinted := fun text =>
  List.decidableBAll (fun c : Char => 0x20 ≤ c.toNat) text

variable {s t : List Char} {c : Char}

theorem isPrinted_nil : IsPrinted [] := List.forall_mem_nil _

@[simp] theorem isPrinted_cons : IsPrinted (c :: s) ↔ 0x20 ≤ c.toNat ∧ IsPrinted s :=
  List.forall_mem_cons

@[simp] theorem isPrinted_append : IsPrinted (s ++ t) ↔ IsPrinted s ∧ IsPrinted t :=
  List.forall_mem_append

theorem IsPrinted.of_subset (h : IsPrinted t) (subset : s ⊆ t) : IsPrinted s :=
  fun c inside => h c (subset inside)

theorem isPrinted_replicate (n : Nat) (printed : 0x20 ≤ c.toNat) :
    IsPrinted (List.replicate n c) := by
  intro d inside
  rw [List.eq_of_mem_replicate inside]
  exact printed

theorem isPrinted_toDigits (n : Nat) : IsPrinted (Nat.toDigits 10 n) := by
  intro c inside
  have digit := Nat.isDigit_of_mem_toDigits (by decide) (by decide) inside
  simp only [Char.isDigit, Bool.and_eq_true, decide_eq_true_eq] at digit
  have large : 48 ≤ c.toNat := UInt32.le_iff_toNat_le.mp digit.1
  omega

theorem isPrinted_toString (n : Nat) : IsPrinted (toString n).toList := by
  have digits : (toString n).toList = Nat.toDigits 10 n := Nat.toList_repr
  rw [digits]
  exact isPrinted_toDigits n

end Text

open Text

namespace Binary64

theorem isPrinted_withPoint {digits : List Char} (printed : IsPrinted digits) (places : Nat) :
    IsPrinted (withPoint digits places) := by
  have padded : IsPrinted (List.replicate (places + 1 - digits.length) '0' ++ digits) :=
    isPrinted_append.mpr ⟨isPrinted_replicate _ (by decide), printed⟩
  rw [withPoint, isPrinted_append, isPrinted_append]
  exact ⟨⟨padded.of_subset (List.take_subset _ _), by decide⟩,
    padded.of_subset (List.drop_subset _ _)⟩

theorem Decimal.isPrinted_text (layout : Layout) (d : Decimal) : IsPrinted (d.text layout) := by
  have digits := isPrinted_toString d.digits
  unfold text
  dsimp only
  split
  · split
    · simp only [isPrinted_append]
      exact ⟨⟨digits, isPrinted_replicate _ (by decide)⟩, by decide⟩
    · exact isPrinted_withPoint digits _
  · simp only [isPrinted_append]
    refine ⟨⟨⟨⟨?_, ?_⟩, by decide⟩, ?_⟩, isPrinted_toString _⟩
    · exact digits.of_subset (List.take_subset _ _)
    · split
      · decide
      · exact isPrinted_cons.mpr ⟨by decide, digits.of_subset (List.drop_subset _ _)⟩
    · split
      · decide
      · split
        · decide
        · decide

theorem isPrinted_text (layout : Layout) (x : Binary64) : IsPrinted (x.text layout) := by
  have sign : IsPrinted (if x.negative then ['-'] else []) := by
    split <;> decide
  rw [text]
  split
  · exact isPrinted_append.mpr ⟨sign, by decide⟩
  · exact isPrinted_append.mpr ⟨sign, Decimal.isPrinted_text layout _⟩

end Binary64

namespace Json

theorem isPrinted_escapeChar (c : Char) : IsPrinted (escapeChar c) := by
  have digit : ∀ n < 16, 0x20 ≤ (hexLower n).toNat := by decide
  unfold escapeChar
  split
  · decide
  · decide
  · decide
  · decide
  · decide
  · decide
  · decide
  · split
    next small =>
      simp only [isPrinted_cons]
      exact ⟨by decide, by decide, by decide, by decide, digit _ (by omega), digit _ (by omega),
        isPrinted_nil⟩
    next large => exact isPrinted_cons.mpr ⟨Nat.not_lt.mp large, isPrinted_nil⟩

theorem isPrinted_quote (s : String) : IsPrinted (quote s) := by
  have inside : IsPrinted (s.toList.flatMap escapeChar) := by
    intro c mem
    obtain ⟨d, -, escaped⟩ := List.mem_flatMap.mp mem
    exact isPrinted_escapeChar d c escaped
  rw [quote, isPrinted_append, isPrinted_cons]
  exact ⟨⟨by decide, inside⟩, by decide⟩

theorem isPrinted_intText (n : Int) : IsPrinted (intText n) := by
  cases n with
  | ofNat n =>
    rw [Int.ofNat_eq_natCast, intText_ofNat]
    exact isPrinted_toDigits n
  | negSucc n =>
    rw [intText_negSucc, isPrinted_cons]
    exact ⟨by decide, isPrinted_toDigits _⟩

mutual

/-- The compact text of any value is printed. -/
theorem isPrinted_compact : ∀ v : Json, IsPrinted v.compact
  | .null => by decide
  | .bool true => by decide
  | .bool false => by decide
  | .int n => isPrinted_intText n
  | .float x => x.isPrinted_text floatLayout
  | .str s => isPrinted_quote s
  | .arr items => by
    rw [compact, isPrinted_append, isPrinted_cons]
    exact ⟨⟨by decide, isPrinted_compactItems items⟩, by decide⟩
  | .obj fields => by
    rw [compact, isPrinted_append, isPrinted_cons]
    exact ⟨⟨by decide, isPrinted_compactFields fields⟩, by decide⟩

theorem isPrinted_compactItems : ∀ items : List Json, IsPrinted (compactItems items)
  | [] => nofun
  | [item] => isPrinted_compact item
  | item :: next :: rest => by
    rw [compactItems, isPrinted_append, isPrinted_cons]
    exact ⟨isPrinted_compact item, by decide, isPrinted_compactItems (next :: rest)⟩

theorem isPrinted_compactFields :
    ∀ fields : List (String × Json), IsPrinted (compactFields fields)
  | [] => nofun
  | [(key, value)] => by
    rw [compactFields, isPrinted_append, isPrinted_cons]
    exact ⟨isPrinted_quote key, by decide, isPrinted_compact value⟩
  | (key, value) :: next :: rest => by
    rw [compactFields]
    simp only [isPrinted_append, isPrinted_cons]
    exact ⟨⟨isPrinted_quote key, by decide, isPrinted_compact value⟩, by decide,
      isPrinted_compactFields (next :: rest)⟩

end

end Json
end Rehearsal
