import Mathlib.Data.List.DropRight
import Rehearsal.Page.Basic
import Rehearsal.Page.Document

/-!
# Routes behind base addresses

Putting a route behind a base address and finding it again in the URL are written apart.
`toList_join` says what the URL of a route looks like; from that the route found in it is
the one put there, up to slashes in front, and a second route takes the place of the
first. What the base address has behind a `#`, in its query or at its end has no say.
-/

namespace Rehearsal

open Text

namespace Route

/-- What of a route counts for the page that it shows: neither signs in front of it nor a
query behind it. -/
def shown (route : String) : String :=
  String.ofList ((route.toList.dropWhile (· == '#')).takeWhile (· != '?'))

/-- What a base address puts in front of its routes. -/
def front (base : String) : List Char :=
  withoutEndSlashes (base.toList.takeWhile (· != '#'))

/-- What a route puts behind the base address. -/
def tail (route : String) : List Char :=
  (route.toList.dropWhile (· == '#')).dropWhile (· == '/')

theorem toList_join (base route : String) :
    (join base route).toList = front base ++ '/' :: '#' :: '/' :: tail route :=
  String.toList_ofList

theorem mem_of_mem_withoutEndSlashes {s : List Char} {c : Char}
    (h : c ∈ withoutEndSlashes s) : c ∈ s :=
  List.mem_reverse.mp (List.dropWhile_subset _ (List.mem_reverse.mp h))

/-- The front of a URL has no `#`. -/
theorem unsigned_front (base : String) : ∀ c ∈ front base, (c != '#') = true := by
  intro c inside
  have kept := List.mem_takeWhile_imp (mem_of_mem_withoutEndSlashes inside)
  exact kept

theorem withoutEndSlashes_concat (s : List Char) :
    withoutEndSlashes (s ++ ['/']) = withoutEndSlashes s := by
  simp [withoutEndSlashes]

theorem withoutEndSlashes_idempotent (s : List Char) :
    withoutEndSlashes (withoutEndSlashes s) = withoutEndSlashes s := by
  rw [withoutEndSlashes, withoutEndSlashes, List.reverse_reverse, List.dropWhile_idempotent]

/-- A URL of a route has the front of its own base address. -/
theorem front_join (base route : String) : front (join base route) = front base := by
  have slashed : ((front base ++ '/' :: '#' :: '/' :: tail route).takeWhile (· != '#')) =
      front base ++ ['/'] := by
    rw [List.takeWhile_append_of_pos (unsigned_front base)]
    rfl
  rw [front, toList_join, slashed, withoutEndSlashes_concat]
  exact withoutEndSlashes_idempotent _

/-- A second route takes the place of the first. -/
theorem join_join (base first second : String) :
    join (join base first) second = join base second := by
  apply String.toList_injective
  rw [toList_join, toList_join, front_join]

/-- The route found in the URL of a route. -/
theorem ofUrl_join (base route : String) :
    ofUrl (join base route) = String.ofList ('/' :: (tail route).takeWhile (· != '?')) := by
  have behind : ((front base ++ '/' :: '#' :: '/' :: tail route).dropWhile (· != '#')) =
      '#' :: '/' :: tail route := by
    rw [List.dropWhile_append_of_pos (unsigned_front base)]
    rfl
  rw [ofUrl, toList_join, behind]
  rfl

/-- Slashes in front of a route are not part of its segments, so the route that is found
has those of the one that was put there. -/
theorem segments_ofUrl_join (base route : String) :
    segments (ofUrl (join base route)) = segments (shown route) := by
  have kept : ∀ c : Char, (c == '/') = true → (c != '?') = true := by
    intro c slash
    obtain rfl := eq_of_beq slash
    rfl
  rw [ofUrl_join, shown, segments, segments, String.toList_ofList, String.toList_ofList,
    words_cons_mark rfl, tail, words_takeWhile_dropWhile kept]

end Route

/-- Only its segments decide whether a route matches. -/
theorem RoutePattern.isMatch_congr {route other : String}
    (same : Route.segments route = Route.segments other) (pattern : RoutePattern) :
    pattern.isMatch route = pattern.isMatch other := by
  rw [isMatch, isMatch, same]

namespace Page

/-- Opening a route shows the page exactly if the route matches, whatever the base address
and whatever the browser showed before. A route that is put behind the URL of another one
takes its place. -/
theorem isActive_navigateTo (page : Page) (route : String) (d : Document) :
    ((do page.navigateTo Document.browser route; page.isActive Document.browser).run d).1 =
        .ok (page.pattern.isMatch (Route.shown route)) ∧
      ∀ base first second : String,
        Route.join (Route.join base first) second = Route.join base second := by
  refine ⟨?_, Route.join_join⟩
  have answer : ((do page.navigateTo Document.browser route
                     page.isActive Document.browser).run d).1 =
      .ok (page.pattern.isMatch (Route.ofUrl (Route.join page.baseUrl route))) := rfl
  rw [answer, RoutePattern.isMatch_congr (Route.segments_ofUrl_join page.baseUrl route)]

end Page
end Rehearsal
