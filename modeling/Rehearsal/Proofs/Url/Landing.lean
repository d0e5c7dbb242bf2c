import Rehearsal.Proofs.Url.Segment

/-!
# Where segments lead

Segments of one and two dots are passed over when a path is extended. The characters that
are dropped vanish only after that, so a segment can still come to stay or to go up, and
then leaves an empty segment behind. `landing` says all this of texts alone, without a
path to extend and without encoding; `foldl_addSegment_landing` says that it is what
becomes of a path with one free segment between names.
-/

namespace Rehearsal.Url

open Text

/-- A path after one more segment. One that comes to go up takes the place of the segment
before it. -/
def arrive (list : List String) (segment : String) : List String :=
  if segment = "." ∨ segment = ".." then list
  else if undropped segment = ".." then list.dropLast ++ [""]
  else if undropped segment = "." then list ++ [""]
  else list ++ [undropped segment]

/-- Where a path leads. -/
def landing (path : List String) : List String := path.foldl arrive []

theorem arrive_of_plain {segment : String} (plain : IsPlain segment) (list : List String) :
    arrive list segment = list ++ [segment] := by
  have left := undropped_of_plain plain
  obtain ⟨here, up, -⟩ := plain
  simp [arrive, left, here, up]

theorem foldl_arrive_of_plain {path : List String} (plain : ∀ segment ∈ path, IsPlain segment)
    (list : List String) : path.foldl arrive list = list ++ path := by
  induction path generalizing list with
  | nil => simp
  | cons segment path ih =>
    obtain ⟨first, behind⟩ := List.forall_mem_cons.mp plain
    rw [List.foldl_cons, arrive_of_plain first, ih behind, List.append_assoc,
      List.singleton_append]

/-- Plain segments lead where they say. -/
theorem landing_of_plain {path : List String} (plain : ∀ segment ∈ path, IsPlain segment) :
    landing path = path := by
  rw [landing, foldl_arrive_of_plain plain, List.nil_append]

theorem landing_append {front : List String} (plain : ∀ segment ∈ front, IsPlain segment)
    (path : List String) : landing (front ++ path) = path.foldl arrive front := by
  rw [landing, List.foldl_append, foldl_arrive_of_plain plain, List.nil_append]

/-- Segments as they stand behind others. At the very front an empty one is not kept. -/
def settled (base landed : List String) : List String :=
  if base = [] ∧ landed.head? = some "" then landed.tail else landed

theorem settled_of_named {landed : List String} (named : landed.head? ≠ some "")
    (base : List String) : settled base landed = landed := by
  simp [settled, named]

/-- A segment that keeps its place: it has a name, and is left when a path goes up. -/
structure IsSteady (scheme segment : String) : Prop where
  plain : IsPlain segment
  named : segment ≠ ""
  left : isDriveLike (written scheme segment) = false

section Free

variable {scheme : String} {list front : List String} {segment last : String}

/-- A path with names at its end is left as any list is. -/
theorem leave_append_written (front_ne : front ≠ []) (steady : ∀ s ∈ front, IsSteady scheme s)
    (base : List String) :
    leave (base ++ front.map (written scheme)) = base ++ front.dropLast.map (written scheme) := by
  obtain ⟨before, name, rfl⟩ := List.eq_nil_or_concat front |>.resolve_left front_ne
  have left := (steady name (by simp)).left
  simp [leave, left, ← List.append_assoc]

/-- An empty segment and one behind it, as they stand behind others. -/
theorem nonempty_append_settled (base : List String) (last : String) :
    nonempty (base ++ [""]) ++ [written scheme last] =
      base ++ (settled base ["", last]).map (written scheme) := by
  by_cases bare : base = []
  · subst bare
    simp [nonempty, settled]
  · rw [nonempty_concat bare, settled, if_neg (by simp [bare])]
    simp

/-- Behind names, a free segment leaves them all in place, or takes that of the last one. -/
theorem landing_free_cases (front : List String) (segment last : String)
    (plain : ∀ s ∈ front, IsPlain s) (last_plain : IsPlain last) :
    front <+: landing (front ++ [segment, last]) ∨
      landing (front ++ [segment, last]) = front.dropLast ++ ["", last] := by
  have ends : landing (front ++ [segment, last]) = arrive front segment ++ [last] := by
    rw [landing_append plain, List.foldl_cons, List.foldl_cons, List.foldl_nil,
      arrive_of_plain last_plain]
  rw [ends, arrive]
  by_cases passed : segment = "." ∨ segment = ".."
  · exact .inl (by simp [passed])
  by_cases up : undropped segment = ".."
  · exact .inr (by simp [passed, up])
  by_cases here : undropped segment = "."
  · exact .inl (by simp [passed, here])
  · exact .inl (by simp [passed, up, here])

/-- One free segment between names: below a path it leads where its texts say. -/
theorem foldl_addSegment_landing (front_ne : front ≠ [])
    (steady : ∀ s ∈ front, IsSteady scheme s) (last_plain : IsPlain last) :
    (front ++ [segment, last]).foldl (addSegment scheme) list =
      nonempty list ++
        (settled (nonempty list) (landing (front ++ [segment, last]))).map (written scheme) := by
  have plain : ∀ s ∈ front, IsPlain s := fun s h => (steady s h).plain
  obtain ⟨first, rest, rfl⟩ := List.exists_cons_of_ne_nil front_ne
  have named : first ≠ "" := (steady first (by simp)).named
  generalize base_eq : nonempty list = base
  -- where the names lead, the free segment is added to a path that is not empty
  have some : base ++ (first :: rest).map (written scheme) ≠ [] := by simp
  have keep : nonempty (base ++ (first :: rest).map (written scheme)) =
      base ++ (first :: rest).map (written scheme) :=
    nonempty_of_ne (by simp [List.append_eq_singleton_iff, written_eq_empty_iff, named])
  rw [List.foldl_append, foldl_addSegment_of_plain plain named, base_eq,
    landing_append plain, List.foldl_cons, List.foldl_cons, List.foldl_nil, List.foldl_cons,
    List.foldl_cons, List.foldl_nil, addSegment_of_plain last_plain, arrive_of_plain last_plain,
    addSegment_eq, arrive, keep]
  by_cases passed : segment = "." ∨ segment = ".."
  · rw [if_pos passed, if_pos passed, keep, settled_of_named (by simp [named])]
    simp
  rw [if_neg passed, if_neg passed]
  by_cases up : undropped segment = ".."
  · rw [if_pos up, if_pos up, leave_append_written front_ne steady]
    cases rest with
    | nil => simpa using nonempty_append_settled base last
    | cons second rest =>
      rw [nonempty_concat (by simp), settled_of_named (by simp [named])]
      simp
  rw [if_neg up, if_neg up]
  by_cases here : undropped segment = "."
  · rw [if_pos here, if_pos here, nonempty_concat some, settled_of_named (by simp [named])]
    simp
  · rw [if_neg here, if_neg here, nonempty_concat some, settled_of_named (by simp [named])]
    simp

end Free

end Rehearsal.Url
