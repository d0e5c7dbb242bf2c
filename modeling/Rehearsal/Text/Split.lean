/-!
# Splitting and joining lists

A list cut at each element that satisfies a test, and pieces put together with
a separator between them. Cutting undoes putting together.
-/

namespace Rehearsal.Text

variable {α : Type}

/-- The pieces between the elements that satisfy `isMark`. There is always at
least one piece, and pieces may be empty. -/
def splitAt (isMark : α → Bool) : List α → List (List α)
  | [] => [[]]
  | x :: xs =>
    if isMark x then [] :: splitAt isMark xs
    else
      match splitAt isMark xs with
      | [] => [[x]]
      | piece :: pieces => (x :: piece) :: pieces

/-- The pieces that are not empty: the words of a text that `isMark` separates. -/
def words (isMark : α → Bool) (s : List α) : List (List α) :=
  (splitAt isMark s).filter fun piece => !piece.isEmpty

/-- The pieces with `mark` between each two neighbours. -/
def joinWith (mark : List α) : List (List α) → List α
  | [] => []
  | [piece] => piece
  | piece :: next :: pieces => piece ++ mark ++ joinWith mark (next :: pieces)

/-- What follows the first place where `mark` stands. -/
def after? [BEq α] (mark : List α) : List α → Option (List α)
  | [] => if mark.isEmpty then some [] else none
  | x :: xs =>
    if mark.isPrefixOf (x :: xs) then some ((x :: xs).drop mark.length) else after? mark xs

theorem splitAt_ne_nil (isMark : α → Bool) (s : List α) : splitAt isMark s ≠ [] := by
  cases s with
  | nil => simp [splitAt]
  | cons x xs =>
    by_cases h : isMark x = true
    · simp [splitAt, h]
    · cases hp : splitAt isMark xs <;> simp [splitAt, h, hp]

/-- No piece holds an element that satisfies the test. -/
theorem not_isMark_of_mem_splitAt (isMark : α → Bool) (s piece : List α)
    (hp : piece ∈ splitAt isMark s) : ∀ x ∈ piece, isMark x = false := by
  induction s generalizing piece with
  | nil => simp [splitAt] at hp; simp [hp]
  | cons x xs ih =>
    by_cases h : isMark x = true
    · simp [splitAt, h] at hp
      rcases hp with rfl | hp
      · simp
      · exact ih piece hp
    · cases hs : splitAt isMark xs with
      | nil => exact absurd hs (splitAt_ne_nil _ _)
      | cons first pieces =>
        simp [splitAt, h, hs] at hp
        rcases hp with rfl | hp
        · have := ih first (by simp [hs])
          simp_all
        · exact ih piece (by simp [hs, hp])

/-- A list without marks is one piece. -/
theorem splitAt_of_unmarked {isMark : α → Bool} {s : List α} (h : ∀ x ∈ s, isMark x = false) :
    splitAt isMark s = [s] := by
  induction s with
  | nil => rfl
  | cons x xs ih =>
    obtain ⟨first, behind⟩ := List.forall_mem_cons.mp h
    simp [splitAt, first, ih behind]

/-- At a mark the pieces in front of it end, and others begin. -/
theorem splitAt_append_mark {isMark : α → Bool} {mark : α} (marks : isMark mark = true)
    (s rest : List α) :
    splitAt isMark (s ++ mark :: rest) = splitAt isMark s ++ splitAt isMark rest := by
  induction s with
  | nil => simp [splitAt, marks]
  | cons x s ih =>
    rw [List.cons_append, splitAt, splitAt, ih]
    cases pieces : splitAt isMark s with
    | nil => exact absurd pieces (splitAt_ne_nil isMark s)
    | cons piece pieces =>
      split
      · rfl
      · rfl

/-- The first mark ends the first piece. -/
theorem splitAt_append_cons {isMark : α → Bool} {piece : List α} {mark : α}
    (h : ∀ x ∈ piece, isMark x = false) (marks : isMark mark = true) (rest : List α) :
    splitAt isMark (piece ++ mark :: rest) = piece :: splitAt isMark rest := by
  rw [splitAt_append_mark marks, splitAt_of_unmarked h]
  rfl

/-- Pieces that are written each behind a mark, and the one before the first mark. -/
theorem splitAt_append_flatMap {isMark : α → Bool} {mark : α} (marks : isMark mark = true)
    {piece : List α} {pieces : List (List α)}
    (h : ∀ p ∈ piece :: pieces, ∀ x ∈ p, isMark x = false) :
    splitAt isMark (piece ++ pieces.flatMap (mark :: ·)) = piece :: pieces := by
  induction pieces generalizing piece with
  | nil => simpa using splitAt_of_unmarked (h piece (by simp))
  | cons next pieces ih =>
    obtain ⟨first, behind⟩ := List.forall_mem_cons.mp h
    rw [List.flatMap_cons, List.cons_append, splitAt_append_cons first marks, ih behind]

/-- Joining writes every piece but the first behind a mark. -/
theorem joinWith_cons (mark : α) (piece : List α) (pieces : List (List α)) :
    joinWith [mark] (piece :: pieces) = piece ++ pieces.flatMap (mark :: ·) := by
  induction pieces generalizing piece with
  | nil => simp [joinWith]
  | cons next pieces ih => rw [joinWith, ih, List.flatMap_cons, List.append_assoc]; rfl

/-- Splitting undoes joining, for pieces without marks. -/
theorem splitAt_joinWith {isMark : α → Bool} {mark : α} (marks : isMark mark = true)
    {pieces : List (List α)} (some : pieces ≠ []) (h : ∀ p ∈ pieces, ∀ x ∈ p, isMark x = false) :
    splitAt isMark (joinWith [mark] pieces) = pieces := by
  obtain ⟨piece, pieces, rfl⟩ := List.exists_cons_of_ne_nil some
  rw [joinWith_cons, splitAt_append_flatMap marks h]

/-- A mark belongs to no word, and no word goes across it. -/
theorem words_append_mark {isMark : α → Bool} {mark : α} (marks : isMark mark = true)
    (s rest : List α) : words isMark (s ++ mark :: rest) = words isMark s ++ words isMark rest := by
  rw [words, splitAt_append_mark marks, List.filter_append]
  rfl

/-- A mark in front belongs to no word. -/
theorem words_cons_mark {isMark : α → Bool} {mark : α} (marks : isMark mark = true) (s : List α) :
    words isMark (mark :: s) = words isMark s :=
  words_append_mark marks [] s

/-- Marks in front do not change the words of what a test keeps, if it keeps marks. -/
theorem words_takeWhile_dropWhile {isMark keeps : α → Bool}
    (kept : ∀ x, isMark x = true → keeps x = true) (s : List α) :
    words isMark ((s.dropWhile isMark).takeWhile keeps) = words isMark (s.takeWhile keeps) := by
  induction s with
  | nil => rfl
  | cons x s ih =>
    by_cases marks : isMark x = true
    · rw [List.dropWhile_cons_of_pos marks, List.takeWhile_cons_of_pos (kept x marks),
        words_cons_mark marks, ih]
    · rw [List.dropWhile_cons_of_neg marks]

end Rehearsal.Text
