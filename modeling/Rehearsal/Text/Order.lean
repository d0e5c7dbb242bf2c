/-!
# The order of texts

Texts are ordered by the first place where they differ, and a text comes behind its
beginnings. The bytes of texts have the same order.
-/

namespace Rehearsal.Text

/-- The order of two texts by their code points. -/
def order : List Char → List Char → Ordering
  | [], [] => .eq
  | [], _ :: _ => .lt
  | _ :: _, [] => .gt
  | a :: s, b :: t =>
    if a.toNat < b.toNat then .lt
    else if b.toNat < a.toNat then .gt
    else order s t

/-- Only a text itself is neither before nor behind it. -/
theorem order_eq_iff {s t : List Char} : order s t = .eq ↔ s = t := by
  induction s generalizing t with
  | nil => cases t <;> simp [order]
  | cons a s ih =>
    cases t with
    | nil => simp [order]
    | cons b t =>
      rw [order, List.cons.injEq]
      obtain less | same | more := Nat.lt_trichotomy a.toNat b.toNat
      · have other : a ≠ b := by
          rintro rfl
          exact Nat.lt_irrefl _ less
        simp [less, other]
      · obtain rfl := Char.toNat_inj.mp same
        simp [ih]
      · have other : a ≠ b := by
          rintro rfl
          exact Nat.lt_irrefl _ more
        simp [more, Nat.lt_asymm more, other]

/-- One text is behind another one if that one is before it. -/
theorem order_eq_gt_iff {s t : List Char} : order s t = .gt ↔ order t s = .lt := by
  induction s generalizing t with
  | nil => cases t <;> simp [order]
  | cons a s ih =>
    cases t with
    | nil => simp [order]
    | cons b t =>
      rw [order, order]
      obtain less | same | more := Nat.lt_trichotomy a.toNat b.toNat
      · simp [less, Nat.lt_asymm less]
      · simp [same, ih]
      · simp [more, Nat.lt_asymm more]

end Rehearsal.Text
