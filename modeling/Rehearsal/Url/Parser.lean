import Rehearsal.Url.Basic
import Rehearsal.Url.Host

/-!
# Reading URLs

An absolute URL is read from its scheme to its fragment. Controls and spaces at
the ends do not count, and neither do tabs and line ends anywhere. Where hosts
are domains, any number of slashes may stand before them, and backslashes are
slashes.
-/

namespace Rehearsal.Url

open Text

/-- Whether a character does not count at the ends. -/
def isEdge (c : Char) : Bool := c.toNat ≤ 0x20

/-- The text that counts. -/
def significant (s : List Char) : List Char :=
  (((s.dropWhile isEdge).reverse.dropWhile isEdge).reverse).filter fun c => !isDropped c

def isSchemeChar (c : Char) : Bool := c.isAlphanum || c == '+' || c == '-' || c == '.'

/-- The scheme in lower case, and what follows its colon. -/
def scheme? (s : List Char) : Option (String × List Char) :=
  match s with
  | [] => none
  | c :: _ =>
    if c.isAlpha then
      match s.dropWhile isSchemeChar with
      | ':' :: rest => some (String.ofList ((s.takeWhile isSchemeChar).map Char.toLower), rest)
      | _ => none
    else none

/-- Whether a character ends the part of a URL that names the host. -/
def endsAuthority (special : Bool) (c : Char) : Bool :=
  c == '/' || c == '?' || c == '#' || (special && c == '\\')

/-- The credentials of the text before the last `@`. A password that is empty does not
count. -/
def readCredentials (s : List Char) : Credentials :=
  let user := s.takeWhile (· != ':')
  let encoded (s : List Char) := String.ofList (Percent.encode userReserved s)
  match s.drop user.length with
  | [] => ⟨encoded user, none⟩
  | [_] => ⟨encoded user, none⟩
  | _ :: password => ⟨encoded user, some (encoded password)⟩

/-- The text before the last `@`, if there is one, and the text behind it. -/
def splitUser (s : List Char) : Option (List Char) × List Char :=
  let behind := (s.reverse.takeWhile (· != '@')).reverse
  if behind.length = s.length then (none, s)
  else (some (s.take (s.length - behind.length - 1)), behind)

/-- The host up to a colon that is not inside brackets, and what follows. -/
def splitHost : (inside : Bool) → List Char → List Char × List Char
  | _, [] => ([], [])
  | inside, c :: rest =>
    if c == ':' && !inside then ([], c :: rest)
    else
      let inside := if c == '[' then true else if c == ']' then false else inside
      let (host, rest) := splitHost inside rest
      (c :: host, rest)

/-- A port up to 65535, from the text after its colon, and what a backslash behind it begins. -/
def readPort (s : List Char) : Except Fault (Option Nat × List Char) :=
  let digits := s.takeWhile Char.isDigit
  let rest := s.drop digits.length
  let n := (digits.filterMap digitValue?).foldl (fun n d => n * 10 + d) 0
  if 65535 < n || rest.head?.any (· != '\\') then .error .port
  else .ok (if digits.isEmpty then none else some n, rest)

/-- The authority of a URL: credentials, host and port, and what is left of its text, which is
part of the path. `isLast` holds when nothing follows it. -/
def authority (scheme : String) (isLast : Bool) (s : List Char) :
    Except Fault (Credentials × String × Option Nat × List Char) := do
  let special := isSpecial scheme
  let (user, behind) := splitUser s
  if user == some [] && behind.isEmpty && !isLast then throw .emptyHost
  let (hostText, portText) := splitHost false behind
  if hostText.isEmpty && (special || !portText.isEmpty) then throw .emptyHost
  let who := readCredentials (user.getD [])
  let host ← if special then Host.ofDomain hostText else Host.ofAny hostText
  let (given, rest) ← readPort (portText.drop 1)
  if host.isEmpty && (who.user != "" || who.password.isSome) then throw .emptyHost
  return (who, host, if given == usualPort scheme then none else given, rest)

/-- A segment as a path that has `list` so far takes it. The path of a file that begins with a
drive has a colon there. -/
def taken (isFile : Bool) (list : List String) (segment : String) : String :=
  if isFile && list.isEmpty && isDrive segment then
    String.ofList (segment.toList.take 1 ++ [':'])
  else segment

/-- Takes one segment of a path: stays, goes up, or goes down. -/
def enter (isFile : Bool) (list : List String) (segment : String) : List String :=
  if isUp segment then leave list
  else if isHere segment then list
  else list ++ [taken isFile list segment]

/-- The segments of a path. One that stays or goes up at the end leaves an empty one. -/
def segments (isFile : Bool) (pieces : List String) : List String :=
  match pieces.getLast? with
  | none => []
  | some last =>
    let before := pieces.dropLast.foldl (enter isFile) []
    if isUp last || isHere last then enter isFile before last ++ [""] else enter isFile before last

/-- Whether the path of a file comes to begin with a drive, so that it is on this machine. -/
def hasDrive (pieces : List String) : Bool :=
  (pieces.foldl
    (fun (list, found) piece => (enter true list piece, found || (list.isEmpty && isDrive piece)))
    (([] : List String), false)).2

/-- The pieces of a text between slashes. -/
def pathPieces (special : Bool) (s : List Char) : List String :=
  let isSlash (c : Char) : Bool := c == '/' || (special && c == '\\')
  (splitAt isSlash s).map fun piece => String.ofList (Percent.encode pathReserved piece)

/-- A text without a slash at its front. -/
def below (special : Bool) : List Char → List Char
  | [] => []
  | c :: rest => if c == '/' || (special && c == '\\') then rest else c :: rest

/-- The path of a text that begins with a slash, or that is taken to. -/
def readPath (special : Bool) (s : List Char) : List String :=
  segments false (pathPieces special (below special s))

/-- The path, the query and the fragment of a text, unread. -/
def splitEnd (s : List Char) : List Char × Option (List Char) × Option (List Char) :=
  let beforeFragment := s.takeWhile (· != '#')
  let fragment :=
    match s.drop beforeFragment.length with
    | [] => none
    | _ :: fragment => some fragment
  let path := beforeFragment.takeWhile (· != '?')
  match beforeFragment.drop path.length with
  | [] => (path, none, fragment)
  | _ :: query => (path, some query, fragment)

/-- Whether a path without a host before it begins with two slashes. -/
def needsGuard (host : Option String) : UrlPath → Bool
  | .blob _ => false
  | .segments list => host.isNone && 1 < list.length && list.head? == some ""

/-- A URL of which the text from the path on has not been read. -/
def assemble (scheme : String) (who : Credentials) (host : Option String) (port : Option Nat)
    (path : List Char → UrlPath) (s : List Char) : Url :=
  let (pathText, query, fragment) := splitEnd s
  let written (reserved : List Char) (s : List Char) := String.ofList (Percent.encode reserved s)
  let path := path pathText
  ⟨scheme, who, host, port, path, needsGuard host path,
    query.map (written (queryReserved scheme)), fragment.map (written fragmentReserved)⟩

/-- A URL with a host, from what follows the slashes before it. -/
def afterSlashes (scheme : String) (s : List Char) : Except Fault Url := do
  let special := isSpecial scheme
  let authorityText := s.takeWhile fun c => !endsAuthority special c
  let rest := s.drop authorityText.length
  let (who, host, port, left) ← authority scheme rest.isEmpty authorityText
  let path (s : List Char) : UrlPath :=
    if s.isEmpty && !special then .segments [] else .segments (readPath special s)
  return assemble scheme who (some host) port path (left ++ rest)

/-- Without the empty segments that a path begins with. -/
def withoutEmptyFirst (list : List String) : List String :=
  match list.dropWhile (· == "") with
  | [] => [""]
  | rest => rest

/-- The host of a file, from what follows two slashes, and what follows the host. This machine
needs no name, and neither does the one that a drive belongs to. -/
def fileHost (s : List Char) : Except Fault (Option String × List Char) := do
  let hostText := s.takeWhile fun c => !endsAuthority true c
  if hostText.isEmpty || isDrive (String.ofList hostText) then return (none, s)
  else
    let host ← Host.ofDomain hostText
    return (if host == "localhost" then none else some host, s.drop hostText.length)

/-- The URL of a file with a path, and a host that counts unless the path begins with a drive. -/
def fileUrl (host : Option String) (s : List Char) : Url :=
  let pieces := pathPieces true (splitEnd s).1
  let path (s : List Char) : UrlPath :=
    .segments (withoutEmptyFirst (segments true (pathPieces true s)))
  assemble "file" ⟨"", none⟩ (some (if hasDrive pieces then "" else host.getD "")) none path s

/-- The URL of a file, from what follows the scheme. Without a host, a slash behind the place of
the host begins an empty segment. -/
def ofFile (s : List Char) : Except Fault Url := do
  let isSlash (c : Char) : Bool := c == '/' || c == '\\'
  match s with
  | a :: b :: rest =>
    if isSlash a && isSlash b then
      let (host, rest) ← fileHost rest
      return fileUrl host (if host.isSome then below true rest else rest)
    else return fileUrl none (below true s)
  | _ => return fileUrl none (below true s)

/-- The URL of a text. -/
def parse (s : String) : Except Fault Url :=
  match scheme? (significant s.toList) with
  | none => .error .relative
  | some (scheme, rest) =>
    if scheme == "file" then ofFile rest
    else if isSpecial scheme then
      afterSlashes scheme (rest.dropWhile fun c => c == '/' || c == '\\')
    else
      match rest with
      | '/' :: '/' :: rest => afterSlashes scheme rest
      | '/' :: below =>
        .ok (assemble scheme ⟨"", none⟩ none none (fun s => .segments (readPath false s))
          ('/' :: below))
      | _ =>
        .ok (assemble scheme ⟨"", none⟩ none none
          (fun s => .blob (String.ofList (Percent.encode [] s))) rest)

end Rehearsal.Url
