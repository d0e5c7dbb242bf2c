import Rehearsal.Table
import Rehearsal.Text.Split

/-!
# Routes

The application keeps its own address behind the `#` of a URL. A route is put
behind a base address, found again in a URL, and matched against the pattern of
a page, segment by segment.
-/

namespace Rehearsal

open Text

namespace Route

/-- The text without the slashes at its end. -/
def withoutEndSlashes (s : List Char) : List Char := (s.reverse.dropWhile (· == '/')).reverse

/-- The URL of a route below a base address. What the base itself has behind a `#` is
dropped, and one slash stands on each side of the `#`. -/
def join (base route : String) : String :=
  let base := withoutEndSlashes (base.toList.takeWhile (· != '#'))
  let route := (route.toList.dropWhile (· == '#')).dropWhile (· == '/')
  String.ofList (base ++ '/' :: '#' :: '/' :: route)

/-- The path of an absolute URL, or the URL itself. -/
def pathOf (url : List Char) : List Char :=
  match after? [':', '/', '/'] url with
  | none => url
  | some rest =>
    match rest.dropWhile (· != '/') with
    | [] => ['/']
    | path => path

/-- The route in a URL: what is behind its first `#`, or else its path, up to a `?`. -/
def ofUrl (url : String) : String :=
  let route :=
    match url.toList.dropWhile (· != '#') with
    | [] => pathOf url.toList
    | _ :: fragment => fragment
  String.ofList (route.takeWhile (· != '?'))

/-- The segments of a route. Slashes at the ends or next to each other do not matter. -/
def segments (route : String) : List String :=
  (words (· == '/') route.toList).map String.ofList

end Route

/-- What a segment of a route has to be. -/
inductive RouteStep where
  | exactly (text : String)
  /-- Any segment. -/
  | any
  /-- Any segment, which then is the value of a parameter. -/
  | parameter (name : String)
  deriving DecidableEq

/-- The step that a segment of a pattern stands for: `*` for any segment, a name after a
colon for a parameter. -/
def RouteStep.ofSegment (segment : String) : RouteStep :=
  match segment.toList with
  | ['*'] => .any
  | ':' :: name => .parameter (String.ofList name)
  | _ => .exactly segment

def RouteStep.accepts : RouteStep → String → Bool
  | .exactly text, segment => text == segment
  | .any, _ => true
  | .parameter _, _ => true

/-- The routes of a page. -/
structure RoutePattern where
  text : String
  deriving DecidableEq

namespace RoutePattern

def steps (pattern : RoutePattern) : List RouteStep :=
  (Route.segments pattern.text).map RouteStep.ofSegment

/-- A route matches when it has one acceptable segment for each step. -/
def isMatch (pattern : RoutePattern) (route : String) : Bool :=
  let segments := Route.segments route
  segments.length == pattern.steps.length &&
    (pattern.steps.zip segments).all fun (step, segment) => step.accepts segment

/-- The segments at the places of the parameters, as far as the route goes, whether or
not it matches. Of parameters with one name the last one counts. -/
def parameters (pattern : RoutePattern) (route : String) : List (String × String) :=
  (pattern.steps.zip (Route.segments route)).foldl
    (fun found (step, segment) =>
      match step with
      | .parameter name => Table.put name segment found
      | _ => found)
    []

end RoutePattern
end Rehearsal
