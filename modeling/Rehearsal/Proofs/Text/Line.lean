import Rehearsal.Text.Split

/-!
# Texts and their lines

A text that is put together from others has the line ends of all of them. Lines that have no
line end in them, each written with one behind it, are found again by cutting at the line
ends.
-/

namespace Rehearsal.Text

/-- A text without a line end. -/
def IsLine (s : String) : Prop := '\n' ∉ s.toList

instance : DecidablePred IsLine := fun s => inferInstanceAs (Decidable ('\n' ∉ s.toList))

@[simp] theorem isLine_append (s t : String) : IsLine (s ++ t) ↔ IsLine s ∧ IsLine t := by
  simp [IsLine]

/-- A number is written on one line. -/
@[simp] theorem isLine_repr (n : Nat) : IsLine n.repr := by
  intro broken
  rw [Nat.toList_repr] at broken
  exact absurd (Nat.isDigit_of_mem_toDigits (by decide) (by decide) broken) (by decide)

theorem isLine_join (texts : List String) :
    IsLine (String.join texts) ↔ ∀ s ∈ texts, IsLine s := by
  simp [IsLine, String.toList_join]

/-- The number of line ends in a text. -/
def lineEnds (s : String) : Nat := s.toList.count '\n'

theorem isLine_iff_lineEnds {s : String} : IsLine s ↔ lineEnds s = 0 := List.count_eq_zero.symm

theorem lineEnds_of_isLine {s : String} (h : IsLine s) : lineEnds s = 0 := isLine_iff_lineEnds.mp h

@[simp] theorem lineEnds_append (s t : String) : lineEnds (s ++ t) = lineEnds s + lineEnds t := by
  simp [lineEnds]

/-- A separator on one line brings no line ends with it. -/
theorem lineEnds_intercalate {separator : String} (line : IsLine separator) (texts : List String) :
    lineEnds (separator.intercalate texts) = lineEnds (String.join texts) := by
  induction texts with
  | nil => rfl
  | cons text texts ih =>
    cases texts with
    | nil => simp
    | cons next texts =>
      rw [String.intercalate_cons_cons, lineEnds_append, lineEnds_append, ih,
        lineEnds_of_isLine line, Nat.add_zero, ← lineEnds_append, ← String.join_cons]

/-- Texts with as many line ends each have as many together. -/
theorem lineEnds_join_congr {α : Type} {f g : α → String} {xs : List α}
    (same : ∀ x ∈ xs, lineEnds (f x) = lineEnds (g x)) :
    lineEnds (String.join (xs.map f)) = lineEnds (String.join (xs.map g)) := by
  induction xs with
  | nil => rfl
  | cons x xs ih =>
    obtain ⟨first, behind⟩ := List.forall_mem_cons.mp same
    rw [List.map_cons, List.map_cons, String.join_cons, String.join_cons, lineEnds_append,
      lineEnds_append, first, ih behind]

theorem lineEnds_join_append (front behind : List String) :
    lineEnds (String.join (front ++ behind)) =
      lineEnds (String.join front) + lineEnds (String.join behind) := by
  rw [← lineEnds_append]
  simp only [lineEnds, String.toList_join, String.toList_append, List.flatMap_append]

/-- Lines bring a line end each, besides those in them. -/
theorem lineEnds_join_lines (lines : List String) :
    lineEnds (String.join (lines.map (· ++ "\n"))) =
      lines.length + lineEnds (String.join lines) := by
  induction lines with
  | nil => rfl
  | cons line lines ih =>
    have one : lineEnds "\n" = 1 := rfl
    rw [List.map_cons, String.join_cons, String.join_cons, lineEnds_append, lineEnds_append,
      lineEnds_append, ih, one, List.length_cons]
    omega

/-- What stands between the line ends of a text, in front of the first one and behind the
last one. -/
def linesOf (s : String) : List String := (splitAt (· == '\n') s.toList).map String.ofList

/-- Lines with a line end behind each of them are told apart. -/
theorem linesOf_join {lines : List String} (h : ∀ line ∈ lines, IsLine line) :
    linesOf (String.join (lines.map (· ++ "\n"))) = lines ++ [""] := by
  induction lines with
  | nil => rfl
  | cons line lines ih =>
    obtain ⟨first, behind⟩ := List.forall_mem_cons.mp h
    have unmarked : ∀ c ∈ line.toList, (c == '\n') = false := by
      intro c inside
      apply beq_false_of_ne
      rintro rfl
      exact first inside
    have whole : (String.join ((line :: lines).map (· ++ "\n"))).toList =
        line.toList ++ '\n' :: (String.join (lines.map (· ++ "\n"))).toList := by
      simp
    rw [linesOf, whole, splitAt_append_cons unmarked rfl, List.map_cons, String.ofList_toList]
    exact congrArg (line :: ·) (ih behind)

/-- Cutting at the line ends makes one piece more than there are line ends. -/
theorem length_linesOf (s : String) : (linesOf s).length = lineEnds s + 1 := by
  rw [linesOf, lineEnds, List.length_map]
  generalize s.toList = text
  induction text with
  | nil => rfl
  | cons c text ih =>
    have pieces_ne := splitAt_ne_nil (· == '\n') text
    rw [splitAt, List.count_cons]
    split
    · rw [List.length_cons, ih]
    · cases pieces : splitAt (· == '\n') text with
      | nil => exact absurd pieces pieces_ne
      | cons piece pieces' =>
        rw [pieces] at ih
        simpa using ih

end Rehearsal.Text
