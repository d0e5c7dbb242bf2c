import Rehearsal.Page.Basic
import Rehearsal.Page.Document

/-!
# Queries of URLs

The route of a URL without a `#` is its path, up to the query. The path is looked for first,
and in the whole URL: behind the first `://` that there is, from the first slash that there
is. Where the URL has a slash behind a `://` of its own, the query has no say. Elsewhere the
slashes of the query count, and `strayPath?` is what is then taken for the path;
`ofUrl_query_eq_iff` says exactly when the route is the same with and without the query.
-/

namespace Rehearsal

namespace Text

variable {α : Type} [BEq α] [LawfulBEq α] {x : α}

/-- An element that a mark does not have stands in no place of the mark. -/
theorem isPrefixOf_append_cons {mark : List α} (foreign : x ∉ mark) (s t : List α) :
    mark.isPrefixOf (s ++ x :: t) = mark.isPrefixOf s := by
  induction mark generalizing s with
  | nil => rfl
  | cons m mark ih =>
    rw [List.mem_cons, not_or] at foreign
    cases s with
    | nil => simp [List.isPrefixOf, Ne.symm foreign.1]
    | cons y s => simp only [List.cons_append, List.isPrefixOf, ih foreign.2]

/-- The first place of a mark is in front of an element that the mark does not have, or else
behind it. -/
theorem after?_append_cons {m : α} {mark : List α} (foreign : x ∉ m :: mark) (s t : List α) :
    after? (m :: mark) (s ++ x :: t) =
      match after? (m :: mark) s with
      | some rest => some (rest ++ x :: t)
      | none => after? (m :: mark) t := by
  induction s with
  | nil =>
    have nowhere := isPrefixOf_append_cons foreign [] t
    rw [List.nil_append] at nowhere
    change after? (m :: mark) (x :: t) = after? (m :: mark) t
    rw [after?, nowhere]
    rfl
  | cons y s ih =>
    have here := isPrefixOf_append_cons foreign (y :: s) t
    rw [List.cons_append] at here ⊢
    rw [after?, after?, here, ih]
    by_cases begins : (m :: mark).isPrefixOf (y :: s) = true
    · have fits : (m :: mark).length ≤ (y :: s).length :=
        (List.isPrefixOf_iff_prefix.mp begins).length_le
      rw [if_pos begins, if_pos begins, ← List.cons_append, List.drop_append_of_le_length fits]
    · rw [if_neg begins, if_neg begins]

/-- Where a mark stands, its elements are. -/
theorem mem_of_after? {m : α} {mark s rest : List α} (found : after? (m :: mark) s = some rest)
    (inside : x ∈ m :: mark) : x ∈ s := by
  induction s with
  | nil => nomatch found
  | cons y s ih =>
    rw [after?] at found
    by_cases begins : (m :: mark).isPrefixOf (y :: s) = true
    · exact (List.isPrefixOf_iff_prefix.mp begins).subset inside
    · rw [if_neg begins] at found
      exact List.mem_cons_of_mem _ (ih found)

/-- What is taken up to an element does not depend on what stands behind that. -/
theorem takeWhile_append_cons {α : Type} {x : α} {p : α → Bool} (stops : p x = false)
    (s t : List α) : (s ++ x :: t).takeWhile p = s.takeWhile p := by
  induction s with
  | nil => simp [stops]
  | cons y s ih => simp only [List.cons_append, List.takeWhile_cons, ih]

end Text

open Text

namespace Route

variable {u q : List Char}

/-- The path of a URL from what stands behind its `://`. -/
def pathBehind (rest : List Char) : List Char :=
  match rest.dropWhile (· != '/') with
  | [] => ['/']
  | path => path

theorem pathOf_eq (url : List Char) :
    pathOf url =
      match after? [':', '/', '/'] url with
      | none => url
      | some rest => pathBehind rest := rfl

/-- What of a query is taken for the path of the URL. Where the URL has a `://` and no slash
behind it, that is the query from its first slash on; where it has no `://`, it is the path
behind the `://` of the query. -/
def strayPath? (u q : List Char) : Option (List Char) :=
  match after? [':', '/', '/'] u with
  | some rest => if '/' ∈ rest ∨ '/' ∉ q then none else some (q.dropWhile (· != '/'))
  | none => (after? [':', '/', '/'] q).map pathBehind

theorem dropWhile_of_not_mem {s : List Char} {c : Char} (absent : c ∉ s) (t : List Char) :
    (s ++ t).dropWhile (· != c) = t.dropWhile (· != c) := by
  refine List.dropWhile_append_of_pos fun x inside => ?_
  exact bne_iff_ne.mpr fun same => absent (same ▸ inside)

theorem dropWhile_eq_nil_of_not_mem {s : List Char} {c : Char} (absent : c ∉ s) :
    s.dropWhile (· != c) = [] := by
  have none := dropWhile_of_not_mem absent []
  rwa [List.append_nil] at none

theorem pathBehind_eq_root {rest : List Char} (absent : '/' ∉ rest) :
    pathBehind rest = ['/'] := by
  rw [pathBehind, dropWhile_eq_nil_of_not_mem absent]

theorem pathBehind_eq_dropWhile {rest : List Char} (own : '/' ∈ rest) :
    pathBehind rest = rest.dropWhile (· != '/') := by
  obtain ⟨front, path, rfl, absent⟩ := List.eq_append_cons_of_mem own
  rw [pathBehind, dropWhile_of_not_mem absent]
  rfl

/-- A path that begins in front of a query goes up to the query. -/
theorem takeWhile_pathBehind_of_mem {rest : List Char} (own : '/' ∈ rest) (q : List Char) :
    (pathBehind (rest ++ '?' :: q)).takeWhile (· != '?') =
      (pathBehind rest).takeWhile (· != '?') := by
  obtain ⟨front, path, rfl, absent⟩ := List.eq_append_cons_of_mem own
  have whole : (front ++ '/' :: path ++ '?' :: q).dropWhile (· != '/') =
      '/' :: path ++ '?' :: q := by
    rw [List.append_assoc, dropWhile_of_not_mem absent]
    rfl
  have alone : (front ++ '/' :: path).dropWhile (· != '/') = '/' :: path := by
    rw [dropWhile_of_not_mem absent]
    rfl
  rw [pathBehind_eq_dropWhile own, pathBehind_eq_dropWhile (List.mem_append_left _ own), whole,
    alone, takeWhile_append_cons rfl]

/-- A path that does not begin in front of a query begins in the query. -/
theorem pathBehind_of_not_mem {rest : List Char} (absent : '/' ∉ rest) (q : List Char) :
    pathBehind (rest ++ '?' :: q) = pathBehind q := by
  rw [pathBehind, dropWhile_of_not_mem absent]
  rfl

/-- The path up to the query, in the whole URL. -/
theorem takeWhile_pathOf (u q : List Char) :
    (pathOf (u ++ '?' :: q)).takeWhile (· != '?') =
      match strayPath? u q with
      | none => (pathOf u).takeWhile (· != '?')
      | some path => path.takeWhile (· != '?') := by
  have foreign : '?' ∉ [':', '/', '/'] := by decide
  rw [pathOf_eq, pathOf_eq, after?_append_cons foreign, strayPath?]
  cases after? [':', '/', '/'] u with
  | none =>
    cases after? [':', '/', '/'] q with
    | none => exact takeWhile_append_cons rfl u q
    | some rest => rfl
  | some rest =>
    by_cases own : '/' ∈ rest
    · simp only [own, true_or, if_true]
      exact takeWhile_pathBehind_of_mem own q
    · simp only [own, false_or, pathBehind_of_not_mem own, pathBehind_eq_root own]
      by_cases inside : '/' ∈ q
      · rw [if_neg fun absent => absent inside, pathBehind_eq_dropWhile inside]
      · rw [if_pos inside, pathBehind_eq_root inside]

/-- The route of a URL without a `#` is its path. -/
theorem ofUrl_of_unsigned {url : String} (unsigned : '#' ∉ url.toList) :
    ofUrl url = String.ofList ((pathOf url.toList).takeWhile (· != '?')) := by
  rw [ofUrl, dropWhile_eq_nil_of_not_mem unsigned]

/-- The route of a URL with a query. -/
theorem ofUrl_query {u q : String} (unsigned : '#' ∉ u.toList) (plain : '#' ∉ q.toList) :
    ofUrl (u ++ "?" ++ q) =
      match strayPath? u.toList q.toList with
      | none => ofUrl u
      | some path => String.ofList (path.takeWhile (· != '?')) := by
  have text : (u ++ "?" ++ q).toList = u.toList ++ '?' :: q.toList := by simp
  have whole : '#' ∉ (u ++ "?" ++ q).toList := by simp [text, unsigned, plain]
  rw [ofUrl_of_unsigned whole, text, takeWhile_pathOf, ofUrl_of_unsigned unsigned]
  cases strayPath? u.toList q.toList <;> rfl

/-- Nothing of a query is taken for the path if the query has no slash, or if the URL has a
slash behind its `://`. -/
theorem strayPath?_eq_none
    (settled : '/' ∉ q ∨ ∃ rest, after? [':', '/', '/'] u = some rest ∧ '/' ∈ rest) :
    strayPath? u q = none := by
  rw [strayPath?]
  cases found : after? [':', '/', '/'] u with
  | none =>
    obtain absent | ⟨rest, own, -⟩ := settled
    · cases stray : after? [':', '/', '/'] q with
      | none => rfl
      | some rest => exact absurd (mem_of_after? stray (by decide)) absent
    · nomatch found.symm.trans own
  | some rest =>
    refine if_pos ?_
    obtain absent | ⟨rest', own, inside⟩ := settled
    · exact .inr absent
    · obtain rfl := Option.some.inj (found.symm.trans own)
      exact .inl inside

end Route

theorem Page.isActive_of_url (page : Page) (d : Document) (url : String) :
    ((page.isActive Document.browser).run { d with currentUrl := url }).1 =
      .ok (page.pattern.isMatch (Route.ofUrl url)) := rfl

namespace Route

/-- When a query has no say in the route of a URL without a `#`: exactly if nothing of it is
taken for the path, or what is taken happens to be the route of the URL without it. That is
so for every query without a slash, and for every URL with a slash behind its `://`. Where a
query has no say in the route, it has none in which pages are shown. -/
theorem ofUrl_query_eq_iff (u q : String) (unsigned : '#' ∉ u.toList) (plain : '#' ∉ q.toList) :
    (ofUrl (u ++ "?" ++ q) = ofUrl u ↔
        ∀ path, strayPath? u.toList q.toList = some path →
          String.ofList (path.takeWhile (· != '?')) = ofUrl u) ∧
      (('/' ∉ q.toList ∨
          ∃ rest, after? [':', '/', '/'] u.toList = some rest ∧ '/' ∈ rest) →
        ofUrl (u ++ "?" ++ q) = ofUrl u) ∧
      (ofUrl (u ++ "?" ++ q) = ofUrl u →
        ∀ (page : Page) (d : Document),
          ((page.isActive Document.browser).run { d with currentUrl := u ++ "?" ++ q }).1 =
            ((page.isActive Document.browser).run { d with currentUrl := u }).1) := by
  have route := ofUrl_query unsigned plain
  refine ⟨?_, fun settled => ?_, fun same page d => ?_⟩
  · rw [route]
    cases strayPath? u.toList q.toList with
    | none => exact ⟨nofun, fun _ => rfl⟩
    | some path =>
      refine ⟨?_, fun same => same path rfl⟩
      rintro same _ ⟨⟩
      exact same
  · rw [route, strayPath?_eq_none settled]
  · rw [Page.isActive_of_url, Page.isActive_of_url, same]

/-- A query with an address and with a second mark in it, behind a URL that has a path. -/
theorem isActive_of_address_in_query :
    let u := "http://localhost:9000/lib/1"
    let q := "back=http://other/page?tab=2"
    let page : Page := ⟨"http://localhost:9000", ⟨"/lib/:id"⟩⟩
    ('#' ∉ u.toList ∧ '#' ∉ q.toList) ∧
      ofUrl (u ++ "?" ++ q) = ofUrl u ∧
      ((page.isActive Document.browser).run
          { Document.blank with currentUrl := u ++ "?" ++ q }).1 =
        ((page.isActive Document.browser).run { Document.blank with currentUrl := u }).1 := by
  intro u q page
  have unsigned : '#' ∉ u.toList := by decide
  have plain : '#' ∉ q.toList := by decide
  obtain ⟨-, settled, shown⟩ := ofUrl_query_eq_iff u q unsigned plain
  have same := settled (.inr ⟨"localhost:9000/lib/1".toList, by decide, by decide⟩)
  exact ⟨⟨unsigned, plain⟩, same, shown same page Document.blank⟩

/-- A route in the query of a URL without a path is taken for the route of the URL, so that
its page is taken for the one that is shown. -/
theorem isActive_of_stray_query :
    let u := "http://localhost:9000"
    let q := "next=/dashboard"
    let page : Page := ⟨"http://localhost:9000", ⟨"/dashboard"⟩⟩
    ('#' ∉ u.toList ∧ '?' ∉ u.toList ∧ '#' ∉ q.toList) ∧
      ofUrl (u ++ "?" ++ q) = "/dashboard" ∧ ofUrl u = "/" ∧
      ((page.isActive Document.browser).run
          { Document.blank with currentUrl := u ++ "?" ++ q }).1 = .ok true ∧
      ((page.isActive Document.browser).run { Document.blank with currentUrl := u }).1 =
        .ok false := by
  refine ⟨by decide, ?_, ?_, ?_, ?_⟩
  · decide +kernel
  · decide +kernel
  · rfl
  · rfl

end Route
end Rehearsal
