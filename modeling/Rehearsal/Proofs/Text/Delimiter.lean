import Rehearsal.Proofs.Text.Utf8

/-!
# Texts between delimiters

A text is cut at the places where a delimiter stands. `Fresh` says that a delimiter put
behind a text stands there for the first time, and then cutting gives the text back. A
delimiter that has its first element only once is fresh behind every text that it is no
part of; one that begins with the end of a line is fresh behind every single line.
-/

namespace Rehearsal.Text

variable {α : Type} {mark front s : List α} {x : α}

/-- A delimiter that is put behind the text stands there for the first time. -/
def Fresh (mark front : List α) : Prop :=
  ∀ part : List α, part <:+ front → part ≠ [] → ¬ mark <+: part ++ mark

theorem fresh_nil (mark : List α) : Fresh mark [] :=
  fun _ suffix some => absurd (List.suffix_nil.mp suffix) some

theorem Fresh.of_cons (fresh : Fresh mark (x :: s)) : Fresh mark s :=
  fun part suffix => fresh part (suffix.trans (List.suffix_cons x s))

/-- A delimiter with its first element nowhere else cannot begin inside a text and end
behind it. -/
theorem fresh_of_absent {head : α} {more : List α} (once : head ∉ more)
    (none : ¬ head :: more <:+: front) : Fresh (head :: more) front := by
  intro part suffix some begins
  obtain ⟨first, others, rfl⟩ := List.exists_cons_of_ne_nil some
  obtain inside | ⟨rest, whole⟩ := List.prefix_or_prefix_of_prefix begins (List.prefix_append _ _)
  · exact none (inside.isInfix.trans suffix.isInfix)
  · -- the part is a proper beginning of the delimiter, which begins anew behind it
    obtain ⟨rfl, rfl⟩ := List.cons.inj whole
    have again : rest <+: first :: others ++ rest :=
      (List.prefix_append_right_inj (first :: others)).mp begins
    cases rest with
    | nil =>
      rw [List.append_eq, List.append_nil] at none
      exact none suffix.isInfix
    | cons next rest =>
      obtain rfl := (List.cons_prefix_cons.mp again).1
      exact once (by simp)

/-- A delimiter that begins with two elements is fresh behind a text without these two next
to each other. -/
theorem fresh_of_unbroken {head next : α} (differ : head ≠ next) {more : List α}
    (unbroken : ¬ [head, next] <:+: front) : Fresh (head :: next :: more) front := by
  intro part suffix some begins
  obtain ⟨first, others, rfl⟩ := List.exists_cons_of_ne_nil some
  obtain ⟨rfl, behind⟩ := List.cons_prefix_cons.mp begins
  cases others with
  | nil => exact differ (List.cons_prefix_cons.mp behind).1.symm
  | cons second others =>
    obtain ⟨rfl, -⟩ := List.cons_prefix_cons.mp behind
    refine unbroken (List.IsInfix.trans ?_ suffix.isInfix)
    exact (List.prefix_append [head, next] others).isInfix

/-- Where its first element is missing, no part begins. -/
theorem infix_of_infix_append {head : α} {more : List α} (absent : head ∉ front)
    (h : head :: more <:+: front ++ s) : head :: more <:+: s := by
  induction front with
  | nil => exact h
  | cons x front ih =>
    rw [List.mem_cons, not_or] at absent
    rw [List.cons_append, List.infix_cons_iff] at h
    obtain begins | h := h
    · exact absurd (List.cons_prefix_cons.mp begins).1 absent.1
    · exact ih absent.2 h

/-- A part that begins with two elements does not begin where these two never stand next to
each other. -/
theorem infix_of_infix_append_cons {head next : α} {more : List α}
    (unbroken : ¬ [head, next] <:+: front ++ [x])
    (h : head :: next :: more <:+: front ++ x :: s) : head :: next :: more <:+: x :: s := by
  induction front with
  | nil => exact h
  | cons first front ih =>
    rw [List.cons_append, List.infix_cons_iff, not_or] at unbroken
    rw [List.cons_append, List.infix_cons_iff] at h
    obtain begins | h := h
    · refine absurd ?_ unbroken.1
      have two : [head, next] <+: first :: (front ++ x :: s) :=
        (List.prefix_append [head, next] more).trans begins
      have whole : first :: (front ++ x :: s) = first :: (front ++ [x]) ++ s := by simp
      rw [whole] at two
      refine List.prefix_of_prefix_length_le two (List.prefix_append _ _) ?_
      simp
    · exact ih unbroken.2 h

namespace Utf8

/-- A text is part of another one if its bytes are part of those of the other. -/
theorem encode_infix_iff {s t : List Char} : encode s <:+: encode t ↔ s <:+: t := by
  constructor
  · intro h
    cases s with
    | nil => exact List.nil_infix
    | cons c s =>
      induction t with
      | nil =>
        obtain ⟨b, tail, bytes, -⟩ := encodeChar_eq_cons c
        rw [encode_cons, bytes, encode_nil, List.infix_nil] at h
        nomatch h
      | cons d t ih =>
        -- the bytes begin with those of a character, hence not in the middle of one
        rw [List.infix_cons_iff]
        obtain ⟨b, tail, bytes, first, -⟩ := encodeChar_eq_cons c
        obtain ⟨x, middle, whole, -, inside⟩ := encodeChar_eq_cons d
        rw [encode_cons d, whole, List.cons_append, List.infix_cons_iff] at h
        obtain begins | h := h
        · rw [← List.cons_append, ← whole, ← encode_cons, encode_prefix_iff] at begins
          exact .inl begins
        · rw [encode_cons, bytes, List.cons_append] at h ih
          refine .inr (ih (infix_of_infix_append ?_ h))
          intro mem
          have bounds := inside b mem
          omega
  · rintro ⟨front, rest, rfl⟩
    exact ⟨encode front, encode rest, by rw [encode_append, encode_append]⟩

end Utf8

variable [DecidableEq α]

/-- The pieces between the places of a delimiter. The first argument counts the elements
that still belong to the place found last. -/
def piecesFrom (mark : List α) : (taken : Nat) → List α → List (List α)
  | _, [] => [[]]
  | taken + 1, _ :: s => piecesFrom mark taken s
  | 0, x :: s =>
    if mark.isPrefixOf (x :: s) then [] :: piecesFrom mark (mark.length - 1) s
    else
      match piecesFrom mark 0 s with
      | [] => [[x]]
      | piece :: pieces => (x :: piece) :: pieces

/-- The pieces of a text between the places where a delimiter stands. -/
def pieces (mark s : List α) : List (List α) := piecesFrom mark 0 s

/-- The text in front of the first place of a delimiter, and the text behind it. -/
def cut (mark : List α) : List α → List α × List α
  | [] => ([], [])
  | x :: s =>
    if mark.isPrefixOf (x :: s) then ([], (x :: s).drop mark.length)
    else (x :: (cut mark s).1, (cut mark s).2)

theorem isPrefixOf_of_ne_nil (some : mark ≠ []) (rest : List α) :
    ∃ head tail, mark = head :: tail ∧ mark.isPrefixOf (head :: (tail ++ rest)) = true := by
  obtain ⟨head, tail, rfl⟩ := List.exists_cons_of_ne_nil some
  exact ⟨head, tail, rfl, List.isPrefixOf_iff_prefix.mpr (List.prefix_append (head :: tail) rest)⟩

theorem Fresh.isPrefixOf_eq_false (fresh : Fresh mark (x :: s)) (rest : List α) :
    mark.isPrefixOf (x :: (s ++ (mark ++ rest))) = false := by
  rw [Bool.eq_false_iff, ne_eq, List.isPrefixOf_iff_prefix, ← List.append_assoc, ← List.cons_append,
    ← List.cons_append]
  intro begins
  have whole := fresh (x :: s) (List.suffix_refl _) (List.cons_ne_nil _ _)
  refine whole (List.prefix_of_prefix_length_le begins (List.prefix_append _ _) ?_)
  rw [List.length_append]
  omega

theorem piecesFrom_append (mark taken rest : List α) :
    piecesFrom mark taken.length (taken ++ rest) = pieces mark rest := by
  induction taken with
  | nil => rfl
  | cons x taken ih => exact ih

/-- The text in front of a fresh delimiter is a piece. -/
theorem pieces_append (some : mark ≠ []) (fresh : Fresh mark front) (rest : List α) :
    pieces mark (front ++ (mark ++ rest)) = front :: pieces mark rest := by
  induction front with
  | nil =>
    obtain ⟨head, tail, rfl, here⟩ := isPrefixOf_of_ne_nil some rest
    rw [List.nil_append, List.cons_append, pieces, piecesFrom, if_pos here]
    exact congrArg ([] :: ·) (piecesFrom_append (head :: tail) tail rest)
  | cons x s ih =>
    have behind := ih fresh.of_cons
    rw [pieces] at behind
    rw [List.cons_append, pieces, piecesFrom, fresh.isPrefixOf_eq_false, behind]
    rfl

/-- A text that the delimiter is no part of is one piece. -/
theorem pieces_of_absent (none : ¬ mark <:+: s) : pieces mark s = [s] := by
  induction s with
  | nil => rfl
  | cons x s ih =>
    rw [List.infix_cons_iff, not_or, ← List.isPrefixOf_iff_prefix] at none
    have behind := ih none.2
    rw [pieces] at behind
    rw [pieces, piecesFrom, if_neg none.1, behind]

/-- A fresh delimiter is where a text is cut. -/
theorem cut_append (some : mark ≠ []) (fresh : Fresh mark front) (rest : List α) :
    cut mark (front ++ (mark ++ rest)) = (front, rest) := by
  induction front with
  | nil =>
    obtain ⟨head, tail, rfl, here⟩ := isPrefixOf_of_ne_nil some rest
    rw [List.nil_append, List.cons_append, cut, if_pos here, ← List.cons_append, List.drop_left]
  | cons x s ih =>
    rw [List.cons_append, cut, fresh.isPrefixOf_eq_false, ih fresh.of_cons]
    rfl

/-- What stands in front of the first place of an element, and what stands behind it. -/
theorem eq_of_append_cons {t rest rest' : List α} (first : x ∉ s) (first' : x ∉ t)
    (h : s ++ x :: rest = t ++ x :: rest') : s = t ∧ rest = rest' := by
  have split {s : List α} (absent : x ∉ s) (rest : List α) :
      cut [x] (s ++ x :: rest) = (s, rest) := by
    refine cut_append (List.cons_ne_nil _ _) (fresh_of_absent List.not_mem_nil ?_) rest
    exact fun found => absent (found.mem (List.mem_singleton_self x))
  have parts := split first rest
  rw [h, split first' rest'] at parts
  exact (Prod.mk.inj parts).imp Eq.symm Eq.symm

end Rehearsal.Text
