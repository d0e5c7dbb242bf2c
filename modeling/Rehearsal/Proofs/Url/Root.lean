import Rehearsal.Proofs.Url.Segment
import Rehearsal.Url.Parser

/-!
# URLs of hosts

What reading makes of the path of a URL whose scheme has hosts that are domains, files
apart: a list of segments that is never empty, none of which has a character in it that
would end it. So the path as it is written can be taken apart again.
-/

namespace Rehearsal.Url

open Text

/-- A segment without the characters that would end it. -/
def IsUnbroken (segment : String) : Prop :=
  ∀ c, c = '/' ∨ c = '?' ∨ c = '#' → c ∉ segment.toList

theorem isUnbroken_empty : IsUnbroken "" := by simp [IsUnbroken]

theorem isUnbroken_written (scheme segment : String) : IsUnbroken (written scheme segment) :=
  fun _ separator => separator_not_mem_written separator scheme segment

/-- A piece of a path is encoded, and was cut at slashes. -/
theorem isUnbroken_of_mem_pathPieces {special : Bool} {s : List Char} {piece : String}
    (h : piece ∈ pathPieces special s) : IsUnbroken piece := by
  obtain ⟨text, cut, rfl⟩ := List.mem_map.mp h
  intro c separator inside
  rw [String.toList_ofList] at inside
  have plain : c ≠ '%' ∧ ∀ n < 16, c ≠ hexUpper n := by
    obtain rfl | rfl | rfl := separator <;> decide
  obtain ⟨inText, allowed⟩ := Percent.mem_of_mem_encode inside plain.1 plain.2
  obtain rfl | rfl | rfl := separator
  · simpa using not_isMark_of_mem_splitAt _ s text cut '/' inText
  · rw [Percent.isEncoded_of_mem (by decide)] at allowed
    nomatch allowed
  · rw [Percent.isEncoded_of_mem (by decide)] at allowed
    nomatch allowed

/-- Entering a segment adds it, or leaves no new one. -/
theorem mem_enter {list : List String} {segment other : String}
    (h : other ∈ enter false list segment) : other ∈ list ∨ other = segment := by
  rw [enter] at h
  split at h
  · rw [leave] at h
    split at h
    · exact .inl h
    · exact .inl (List.dropLast_subset _ h)
  · split at h
    · exact .inl h
    · simpa [taken] using h

theorem mem_foldl_enter {pieces list : List String} {segment : String}
    (h : segment ∈ pieces.foldl (enter false) list) : segment ∈ list ∨ segment ∈ pieces := by
  induction pieces generalizing list with
  | nil => exact .inl h
  | cons piece pieces ih =>
    obtain entered | later := ih h
    · obtain before | rfl := mem_enter entered
      · exact .inl before
      · exact .inr List.mem_cons_self
    · exact .inr (List.mem_cons_of_mem _ later)

/-- The segments of a path are pieces of it, or empty. -/
theorem mem_segments {pieces : List String} {segment : String}
    (h : segment ∈ segments false pieces) : segment = "" ∨ segment ∈ pieces := by
  rw [segments] at h
  cases found : pieces.getLast? with
  | none =>
    rw [found] at h
    nomatch h
  | some last =>
    have last_mem : last ∈ pieces := List.mem_of_getLast? found
    have inside : segment ∈ enter false (pieces.dropLast.foldl (enter false) []) last →
        segment ∈ pieces := by
      intro entered
      obtain before | rfl := mem_enter entered
      · obtain none | piece := mem_foldl_enter before
        · nomatch none
        · exact List.dropLast_subset _ piece
      · exact last_mem
    simp only [found] at h
    split at h
    · obtain entered | empty := List.mem_append.mp h
      · exact .inr (inside entered)
      · exact .inl (List.mem_singleton.mp empty)
    · exact .inr (inside h)

/-- A path has a segment at least. -/
theorem segments_ne_nil {pieces : List String} (some : pieces ≠ []) :
    segments false pieces ≠ [] := by
  rw [segments, List.getLast?_eq_some_getLast some]
  simp only
  split
  · simp
  next named =>
    simp only [Bool.or_eq_true, not_or, Bool.not_eq_true] at named
    simp [enter, named.1, named.2]

/-- What a URL of a host has for a path. -/
structure HasPath (u : Url) (list : List String) : Prop where
  path : u.path = .segments list
  some : list ≠ []
  unbroken : ∀ segment ∈ list, IsUnbroken segment
  unguarded : u.guarded = false

theorem toList_pathText {u : Url} {list : List String} (h : HasPath u list) :
    u.pathText.toList = (list.map String.toList).flatMap ('/' :: ·) := by
  rw [pathText, h.path, h.unguarded]
  simp [String.toList_join, List.flatMap_def, Function.comp_def]

/-- The segments can be told apart in the path as it is written. -/
theorem splitAt_pathText {u : Url} {list : List String} (h : HasPath u list) :
    splitAt (fun c => c == '/') u.pathText.toList = [] :: list.map String.toList := by
  rw [toList_pathText h]
  change splitAt _ ([] ++ (list.map String.toList).flatMap _) = _
  refine splitAt_append_flatMap (by rfl) ?_
  intro piece member c inside
  obtain rfl | written := List.mem_cons.mp member
  · nomatch inside
  · obtain ⟨segment, listed, rfl⟩ := List.mem_map.mp written
    rw [beq_eq_false_iff_ne]
    rintro rfl
    exact h.unbroken segment listed '/' (.inl rfl) inside

/-- Nothing in a path begins a query or a fragment. -/
theorem not_mem_pathText {u : Url} {list : List String} (h : HasPath u list) {c : Char}
    (mark : c = '?' ∨ c = '#') : c ∉ u.pathText.toList := by
  rw [toList_pathText h]
  intro inside
  obtain ⟨_, written, inside⟩ := List.mem_flatMap.mp inside
  obtain ⟨segment, member, rfl⟩ := List.mem_map.mp written
  obtain rfl | inside := List.mem_cons.mp inside
  · obtain h | h := mark <;> nomatch h
  · exact h.unbroken segment member c (.inr mark) inside

/-- A URL is named with its segments in full. -/
theorem length_le_length_named {u : Url} {list : List String} {segment : String}
    (h : HasPath u list) (member : segment ∈ list) :
    segment.toList.length ≤ u.named.text.toList.length := by
  have path : u.named.pathText = u.pathText := by
    rw [named]
    split <;> rfl
  have inside : segment.toList.Sublist u.pathText.toList := by
    rw [toList_pathText h]
    refine .trans (List.sublist_cons_self '/' _) (List.sublist_flatten_of_mem ?_)
    simpa using ⟨segment, member, rfl⟩
  have bound := inside.length_le
  rw [Url.text, path]
  simp only [String.toList_append, List.length_append]
  omega

/-- URLs with the same text of a path have the same path. -/
theorem eq_of_pathText_eq {u v : Url} {list other : List String} (first : HasPath u list)
    (second : HasPath v other) (same : u.pathText = v.pathText) : list = other := by
  have pieces := splitAt_pathText first
  rw [same, splitAt_pathText second] at pieces
  exact ((List.map_inj_right fun _ _ => String.toList_inj.mp).mp (List.cons.inj pieces).2).symm

theorem hasPath_assemble {path : List Char → UrlPath}
    (reads : ∀ text, path text = .segments (readPath true text)) (scheme : String)
    (who : Credentials) (host : String) (port : Option Nat) (s : List Char) :
    HasPath (assemble scheme who (some host) port path s) (readPath true (splitEnd s).1) where
  path := reads _
  some := segments_ne_nil (by simp [pathPieces, splitAt_ne_nil])
  unbroken segment h := by
    obtain rfl | piece := mem_segments h
    · exact isUnbroken_empty
    · exact isUnbroken_of_mem_pathPieces piece
  unguarded := by simp [assemble, reads, needsGuard]

/-- What follows slashes is read as a URL of the scheme. -/
theorem exists_of_afterSlashes {scheme : String} {s : List Char} {u : Url}
    (h : afterSlashes scheme s = .ok u) :
    u.scheme = scheme ∧ (isSpecial scheme = true → ∃ list, HasPath u list) := by
  rw [afterSlashes] at h
  generalize authority scheme _ _ = found at h
  cases found with
  | error fault => nomatch h
  | ok parts =>
    obtain rfl := Except.ok.inj h
    refine ⟨rfl, fun special => ⟨_, hasPath_assemble ?_ _ _ _ _ _⟩⟩
    intro text
    simp [special]

theorem scheme_of_ofFile {s : List Char} {u : Url} (h : ofFile s = .ok u) : u.scheme = "file" := by
  unfold ofFile at h
  extract_lets isSlash at h
  split at h
  next rest =>
    split at h
    · generalize fileHost rest = found at h
      cases found with
      | error fault => nomatch h
      | ok parts => exact (Except.ok.inj h).symm ▸ rfl
    · exact (Except.ok.inj h).symm ▸ rfl
  · exact (Except.ok.inj h).symm ▸ rfl

/-- The path of a URL of a host. -/
theorem exists_hasPath_of_parse {s : String} {u : Url} (parsed : parse s = .ok u)
    (special : isSpecial u.scheme = true) (remote : u.scheme ≠ "file") :
    ∃ list, HasPath u list := by
  rw [parse] at parsed
  split at parsed
  · nomatch parsed
  next scheme rest _ =>
    split at parsed
    · exact absurd (scheme_of_ofFile parsed) remote
    split at parsed
    next known => exact (exists_of_afterSlashes parsed).2 known
    next unknown =>
      -- no other branch reads a URL of such a scheme
      have same : u.scheme = scheme := by
        split at parsed
        · exact (exists_of_afterSlashes parsed).1
        · exact (Except.ok.inj parsed).symm ▸ rfl
        · exact (Except.ok.inj parsed).symm ▸ rfl
      exact absurd (same ▸ special) unknown

/-- The segments of a root that others come behind: an empty one at the end is left out,
and so are both of two empty ones. -/
def rootSegments (list : List String) : List String :=
  if list = ["", ""] then []
  else if list.getLast? = some "" then list.dropLast else list

theorem nonempty_withoutEmptyLast {list : List String} (some : list ≠ []) :
    nonempty (withoutEmptyLast list) = rootSegments list := by
  obtain ⟨before, last, rfl⟩ : ∃ before last, list = before ++ [last] :=
    ⟨_, _, (List.dropLast_concat_getLast some).symm⟩
  have double : before ++ [last] = ["", ""] ↔ before = [""] ∧ last = "" :=
    (List.append_singleton_inj : before ++ [last] = [""] ++ [""] ↔ _)
  by_cases empty : last = ""
  · subst empty
    by_cases bare : before = []
    · subst bare
      rfl
    · have longer : 0 < before.length := List.length_pos_iff.mpr bare
      simp [nonempty, withoutEmptyLast, rootSegments, double, longer]
  · simp [nonempty, withoutEmptyLast, rootSegments, double, empty, List.append_eq_singleton_iff]

theorem rootSegments_subset (list : List String) : rootSegments list ⊆ list := by
  rw [rootSegments]
  split
  · exact List.nil_subset list
  · split
    · exact List.dropLast_subset list
    · exact List.Subset.refl list

section Extend

variable {u : Url} {list path : List String}

theorem extend_of_hasPath (h : HasPath u list) (path : List String) :
    u.extend path =
      { u with path := .segments (path.foldl (addSegment u.scheme) (withoutEmptyLast list)) } := by
  simp [extend, h.path]

/-- A path below the path of a URL can be told apart like that one. -/
theorem hasPath_extend (h : HasPath u list) {added : List String} (some : added ≠ [])
    (adds : path.foldl (addSegment u.scheme) (withoutEmptyLast list) =
      rootSegments list ++ added.map (written u.scheme)) :
    HasPath (u.extend path) (rootSegments list ++ added.map (written u.scheme)) := by
  rw [extend_of_hasPath h]
  refine ⟨congrArg UrlPath.segments adds, by simp [some], ?_, h.unguarded⟩
  intro segment member
  obtain root | below := List.mem_append.mp member
  · exact h.unbroken segment (rootSegments_subset list root)
  · obtain ⟨plain, -, rfl⟩ := List.mem_map.mp below
    exact isUnbroken_written u.scheme plain

/-- Of URLs that differ in their paths alone, the same text means the same path. -/
theorem pathText_eq_of_sent {x y : UrlPath}
    (same : ({ u with path := x } : Url).sent.text = ({ u with path := y } : Url).sent.text) :
    ({ u with path := x } : Url).pathText = ({ u with path := y } : Url).pathText := by
  have whole : ∀ z, ({ u with path := z } : Url).sent.text =
      u.scheme ++ ":" ++ u.sent.authorityText ++ ({ u with path := z } : Url).pathText ++
        u.query.elim "" (fun query => "?" ++ query) ++ "" := fun _ => rfl
  rw [whole, whole] at same
  simpa using same

/-- Paths below one URL are sent to the same place exactly if they become the same. -/
theorem sent_extend_eq_iff {way xs ys : List String} (h : HasPath u list)
    (first : HasPath (u.extend path) xs) (second : HasPath (u.extend way) ys) :
    (u.extend path).sent.text = (u.extend way).sent.text ↔ xs = ys := by
  rw [extend_of_hasPath h] at first ⊢
  rw [extend_of_hasPath h] at second ⊢
  constructor
  · intro same
    exact eq_of_pathText_eq first second (pathText_eq_of_sent same)
  · rintro rfl
    have same := first.path.trans second.path.symm
    simp only at same
    rw [same]

end Extend

end Rehearsal.Url
