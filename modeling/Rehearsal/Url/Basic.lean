import Rehearsal.Text.Percent
import Rehearsal.Text.Utf8

/-!
# URLs

A URL in parts, each as it is written: what needs encoding is encoded. Its path
is a list of segments, to which more segments can be added at the end.
-/

namespace Rehearsal

open Text

/-- Who asks, in front of the host. -/
structure Credentials where
  user : String
  password : Option String
  deriving DecidableEq

/-- The path of a URL. -/
inductive UrlPath where
  /-- A text behind the scheme that is not interpreted. -/
  | blob (text : String)
  /-- Each segment is written behind a slash. -/
  | segments (list : List String)
  deriving DecidableEq

/-- An absolute URL. -/
structure Url where
  scheme : String
  credentials : Credentials
  host : Option String
  /-- The port, if it is not the usual one of the scheme. -/
  port : Option Nat
  path : UrlPath
  /-- The path is written behind `/.`, because it would begin a host otherwise. -/
  guarded : Bool
  query : Option String
  fragment : Option String
  deriving DecidableEq

namespace Url

/-- Schemes with hosts that are domains, and their usual ports. -/
def usualPorts : List (String × Option Nat) :=
  [("http", some 80), ("https", some 443), ("ws", some 80), ("wss", some 443), ("ftp", some 21),
    ("file", none)]

/-- Whether a scheme has hosts that are domains, and backslashes that are slashes. -/
def isSpecial (scheme : String) : Bool := usualPorts.any fun pair => pair.1 == scheme

/-- The usual port of a scheme. -/
def usualPort (scheme : String) : Option Nat :=
  (usualPorts.find? fun pair => pair.1 == scheme).bind Prod.snd

/-- Characters that are encoded in fragments. -/
def fragmentReserved : List Char := [' ', '"', '<', '>', '\x60']

/-- Characters that are encoded in paths. -/
def pathReserved : List Char := fragmentReserved ++ ['#', '?', '\x7b', '\x7d']

/-- Characters that are encoded in a segment that is added to a path. -/
def segmentReserved (scheme : String) : List Char :=
  pathReserved ++ ['/', '%'] ++ if isSpecial scheme then ['\\'] else []

/-- Characters that are encoded in credentials. -/
def userReserved : List Char :=
  pathReserved ++ ['/', ':', ';', '=', '@', '[', '\\', ']', '^', '|']

/-- Characters that are encoded in queries. -/
def queryReserved (scheme : String) : List Char :=
  [' ', '"', '#', '<', '>'] ++ if isSpecial scheme then ['\''] else []

def credentialsText (c : Credentials) : String :=
  match c.password with
  | none => if c.user.isEmpty then "" else c.user ++ "@"
  | some password => c.user ++ ":" ++ password ++ "@"

/-- The path as it is written. -/
def pathText (u : Url) : String :=
  match u.path with
  | .blob text => text
  | .segments list =>
    (if u.guarded then "/." else "") ++ String.join (list.map fun segment => "/" ++ segment)

/-- The host with what belongs to it. -/
def authorityText (u : Url) : String :=
  match u.host with
  | none => ""
  | some host =>
    "//" ++ credentialsText u.credentials ++ host ++ u.port.elim "" fun port => s!":{port}"

/-- The URL as it is written. -/
def text (u : Url) : String :=
  u.scheme ++ ":" ++ u.authorityText ++ u.pathText ++
    u.query.elim "" (fun query => "?" ++ query) ++
    u.fragment.elim "" (fun fragment => "#" ++ fragment)

/-- Characters that are dropped wherever they stand. -/
def isDropped (c : Char) : Bool := c == '\t' || c == '\n' || c == '\r'

/-- A segment that stays where it is. -/
def isHere (segment : String) : Bool :=
  segment == "." || segment == "%2e" || segment == "%2E"

/-- A segment that goes up. -/
def isUp (segment : String) : Bool :=
  [".", "%2e", "%2E"].any fun a => [".", "%2e", "%2E"].any fun b => segment == a ++ b

/-- A letter and a colon, or a bar in place of the colon: the name of a drive. -/
def isDrive (segment : String) : Bool :=
  match segment.toList with
  | [c, mark] => c.isAlpha && (mark == ':' || mark == '|')
  | _ => false

/-- A segment that is the name of a drive up to its first backslash. -/
def isDriveLike (segment : String) : Bool :=
  isDrive (String.ofList (segment.toList.takeWhile (· != '\\')))

/-- A path without its last segment. What looks like a drive is not left. -/
def leave (list : List String) : List String :=
  if list.getLast?.any isDriveLike then list else list.dropLast

/-- The list of segments without a single empty one. -/
def nonempty (list : List String) : List String := if list == [""] then [] else list

/-- The segments without an empty last one. The root keeps its one segment. -/
def withoutEmptyLast (list : List String) : List String :=
  if 1 < list.length && list.getLast? == some "" then list.dropLast else list

/-- Adds a segment. Those that would stay or go up are not added. Dropped characters
vanish after that is decided, and may leave a segment that stays or goes up. -/
def addSegment (scheme : String) (list : List String) (segment : String) : List String :=
  if segment == "." || segment == ".." then list
  else
    let written := String.ofList
      (Percent.encode (segmentReserved scheme) (segment.toList.filter fun c => !isDropped c))
    if isUp written then leave (nonempty list) ++ [""]
    else if isHere written then nonempty list ++ [""]
    else nonempty list ++ [written]

/-- Whether segments can be added. -/
def hasSegments (u : Url) : Bool :=
  match u.path with
  | .blob _ => false
  | .segments _ => true

/-- The URL below which segments are added, an empty last segment of it left out. -/
def extend (u : Url) (added : List String) : Url :=
  match u.path with
  | .blob _ => u
  | .segments list =>
    { u with path := .segments (added.foldl (addSegment u.scheme) (withoutEmptyLast list)) }

/-- What credentials say, if it is text. A password that is no text does not count. -/
def readCredentials? (c : Credentials) : Option (List Char × Option (List Char)) := do
  let user ← Utf8.decode? (Percent.decode c.user.toList)
  return (user, c.password.bind fun p => Utf8.decode? (Percent.decode p.toList))

/-- Whether the credentials of a URL are taken out of it before it is used: they say
something. -/
def hasCredentials (u : Url) : Bool :=
  (readCredentials? u.credentials).any fun (user, password) => !user.isEmpty || password.isSome

/-- The URL as it is named: credentials that say something are not told. -/
def named (u : Url) : Url :=
  if u.hasCredentials then { u with credentials := ⟨"", none⟩ } else u

/-- The URL as it is sent: without credentials, and without what only the sender knows. -/
def sent (u : Url) : Url := { u with credentials := ⟨"", none⟩, fragment := none }

end Url
end Rehearsal
