import Rehearsal.Proofs.Text.Percent
import Rehearsal.Text.Split
import Rehearsal.Url.Basic

/-!
# Segments below a path

A segment that is added to a path is written with everything encoded that could end it,
so it can be read back and is never split. What is written stays or goes up only if the
segment itself does, and such segments are passed over, unless characters that vanish
stand between their dots. `landing` says where segments lead, in plain text;
`foldl_addSegment_of_plain` that plain ones lead where they say.
-/

namespace Rehearsal.Url

open Text

/-- A segment as it is written behind a path. -/
def written (scheme segment : String) : String :=
  String.ofList (Percent.encode (segmentReserved scheme) segment.toList)

section Written

variable {scheme segment other : String}

theorem percent_mem_segmentReserved (scheme : String) : '%' ∈ segmentReserved scheme := by
  simp [segmentReserved]

/-- A written segment can be read back. -/
theorem decode_written (scheme segment : String) :
    Percent.decode (written scheme segment).toList = Utf8.encode segment.toList := by
  rw [written, String.toList_ofList]
  exact Percent.decode_encode (percent_mem_segmentReserved scheme) segment.toList

theorem written_injective (h : written scheme segment = written scheme other) :
    segment = other := by
  have chars := congrArg String.toList h
  rw [written, written, String.toList_ofList, String.toList_ofList] at chars
  exact String.toList_inj.mp
    (Percent.encode_injective (percent_mem_segmentReserved scheme) chars)

/-- A text that decodes to plain characters is written for no other segment. -/
theorem eq_of_decode_written {s : List Char}
    (h : Percent.decode (written scheme segment).toList = Utf8.encode s) :
    segment.toList = s := by
  rw [decode_written] at h
  exact Utf8.encode_injective h

/-- Nothing that ends a segment is in a written one. -/
theorem separator_not_mem_written {c : Char} (separator : c = '/' ∨ c = '?' ∨ c = '#')
    (scheme segment : String) : c ∉ (written scheme segment).toList := by
  intro inside
  rw [written, String.toList_ofList] at inside
  have reserved : c ∈ segmentReserved scheme := by
    obtain rfl | rfl | rfl := separator <;> simp [segmentReserved, pathReserved]
  have outside : c ≠ '%' ∧ ∀ n < 16, c ≠ hexUpper n := by
    obtain rfl | rfl | rfl := separator <;> decide
  have allowed := (Percent.mem_of_mem_encode inside outside.1 outside.2).2
  rw [Percent.isEncoded_of_mem reserved] at allowed
  nomatch allowed

theorem written_of_plain (plain : ∀ c ∈ segment.toList,
    Percent.isEncoded (segmentReserved scheme) c = false) : written scheme segment = segment := by
  rw [written, Percent.encode_of_plain plain, String.ofList_toList]

theorem length_le_length_written (scheme segment : String) :
    segment.toList.length ≤ (written scheme segment).toList.length := by
  rw [written, String.toList_ofList]
  exact Percent.length_le_length_encode _ _

theorem isEncoded_dot (scheme : String) :
    Percent.isEncoded (segmentReserved scheme) '.' = false := by
  rw [segmentReserved]
  split <;> decide

@[simp] theorem written_empty (scheme : String) : written scheme "" = "" := rfl

theorem written_eq_empty_iff : written scheme segment = "" ↔ segment = "" := by
  constructor
  · intro h
    have none : segment.toList = [] := eq_of_decode_written (by rw [h]; rfl)
    exact String.toList_eq_nil_iff.mp none
  · rintro rfl
    exact written_empty scheme

/-- Only a dot is written as a segment that stays. -/
theorem isHere_written : isHere (written scheme segment) = true ↔ segment = "." := by
  constructor
  · intro here
    have forms : written scheme segment = "." ∨ written scheme segment = "%2e" ∨
        written scheme segment = "%2E" := by
      simpa [isHere, or_assoc] using here
    have dot : segment.toList = ['.'] := by
      obtain h | h | h := forms <;> exact eq_of_decode_written (by rw [h]; decide)
    exact String.toList_inj.mp dot
  · rintro rfl
    rw [written_of_plain (by simpa using isEncoded_dot scheme)]
    decide

/-- Only two dots are written as a segment that goes up. -/
theorem isUp_written : isUp (written scheme segment) = true ↔ segment = ".." := by
  constructor
  · intro up
    have forms : ∃ a ∈ [".", "%2e", "%2E"], ∃ b ∈ [".", "%2e", "%2E"],
        written scheme segment = a ++ b := by
      simpa only [isUp, List.any_eq_true, beq_iff_eq] using up
    have pairs : ∀ a ∈ [".", "%2e", "%2E"], ∀ b ∈ [".", "%2e", "%2E"],
        Percent.decode (a ++ b).toList = Utf8.encode ['.', '.'] := by decide
    have read : Percent.decode (written scheme segment).toList = Utf8.encode ['.', '.'] := by
      obtain ⟨a, first, b, second, h⟩ := forms
      rw [h]
      exact pairs a first b second
    exact String.toList_inj.mp (eq_of_decode_written read)
  · rintro rfl
    rw [written_of_plain (by simpa using isEncoded_dot scheme)]
    decide

end Written

/-- A segment that means nothing but itself, and has no characters that are dropped. -/
def IsPlain (segment : String) : Prop :=
  segment ≠ "." ∧ segment ≠ ".." ∧ ∀ c ∈ segment.toList, isDropped c = false

instance (segment : String) : Decidable (IsPlain segment) :=
  -- by the characters of the segment, not by all that there are
  haveI := List.decidableBAll (fun c => isDropped c = false) segment.toList
  inferInstanceAs (Decidable (_ ∧ _ ∧ _))

/-- A segment without the characters that are dropped. -/
def undropped (segment : String) : String :=
  String.ofList (segment.toList.filter fun c => !isDropped c)

theorem undropped_of_plain {segment : String} (plain : IsPlain segment) :
    undropped segment = segment := by
  rw [undropped, List.filter_eq_self.mpr (by simpa using plain.2.2), String.ofList_toList]

/-- Adding a segment, said of what is left of it in plain text. -/
theorem addSegment_eq (scheme : String) (list : List String) (segment : String) :
    addSegment scheme list segment =
      if segment = "." ∨ segment = ".." then list
      else if undropped segment = ".." then leave (nonempty list) ++ [""]
      else if undropped segment = "." then nonempty list ++ [""]
      else nonempty list ++ [written scheme (undropped segment)] := by
  have form : String.ofList (Percent.encode (segmentReserved scheme)
      (segment.toList.filter fun c => !isDropped c)) = written scheme (undropped segment) := by
    rw [written, undropped, String.toList_ofList]
  rw [addSegment, form]
  simp only [isUp_written, isHere_written, Bool.or_eq_true, beq_iff_eq]

theorem addSegment_of_plain {segment : String} (plain : IsPlain segment) (scheme : String)
    (list : List String) :
    addSegment scheme list segment = nonempty list ++ [written scheme segment] := by
  have left := undropped_of_plain plain
  obtain ⟨here, up, -⟩ := plain
  simp [addSegment_eq, left, here, up]

theorem nonempty_of_ne {list : List String} (h : list ≠ [""]) : nonempty list = list := by
  simp [nonempty, h]

theorem nonempty_concat {list : List String} (some : list ≠ []) (segment : String) :
    nonempty (list ++ [segment]) = list ++ [segment] :=
  nonempty_of_ne (by simp [List.append_eq_singleton_iff, some])

/-- Plain segments behind a path that is not empty lead where they say. -/
theorem foldl_addSegment_behind {scheme : String} {list path : List String} (some : list ≠ [])
    (more : list ≠ [""]) (plain : ∀ segment ∈ path, IsPlain segment) :
    path.foldl (addSegment scheme) list = list ++ path.map (written scheme) := by
  induction path generalizing list with
  | nil => simp
  | cons segment path ih =>
    obtain ⟨first, behind⟩ := List.forall_mem_cons.mp plain
    have longer : list ++ [written scheme segment] ≠ [""] := by
      simp [List.append_eq_singleton_iff, some, more]
    rw [List.foldl_cons, addSegment_of_plain first, nonempty_of_ne more,
      ih (by simp) longer behind, List.map_cons, List.append_assoc, List.singleton_append]

/-- Plain segments, the first of which has a name, lead where they say. An empty segment
that the path consists of is not kept. -/
theorem foldl_addSegment_of_plain {scheme first : String} {rest : List String}
    (plain : ∀ segment ∈ first :: rest, IsPlain segment) (named : first ≠ "")
    (list : List String) :
    (first :: rest).foldl (addSegment scheme) list =
      nonempty list ++ (first :: rest).map (written scheme) := by
  obtain ⟨head, behind⟩ := List.forall_mem_cons.mp plain
  have more : nonempty list ++ [written scheme first] ≠ [""] := by
    simp [List.append_eq_singleton_iff, written_eq_empty_iff, named]
  rw [List.foldl_cons, addSegment_of_plain head, foldl_addSegment_behind (by simp) more behind,
    List.map_cons, List.append_assoc, List.singleton_append]

end Rehearsal.Url
