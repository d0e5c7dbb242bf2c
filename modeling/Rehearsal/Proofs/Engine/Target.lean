import Mathlib.Data.List.Forall2
import Rehearsal.Engine.Exchange
import Rehearsal.Proofs.Engine.Request
import Rehearsal.Proofs.Url.Landing
import Rehearsal.Proofs.Url.Root

/-!
# Where requests go

The URL of a request has what its root has in front of the path and behind it. Below the
path of the root stand the segments of the request, each of which can be read back, as
long as they are plain. Segments that are not may lead elsewhere, and two requests of one
method then meet in one place: exactly if their landings are the same.
-/

namespace Rehearsal

open Text

namespace Request.Form

open Url

variable {method other : Method} {path way : List String}

/-- The names that a free segment can stand behind. -/
theorem isSteady_of_mem {scheme name : String} (h : name ∈ ["process-definition", "key"]) :
    IsSteady scheme name := by
  have plain : ∀ name ∈ ["process-definition", "key"], IsPlain name := by decide
  have named : ∀ name ∈ ["process-definition", "key"], name ≠ "" := by decide
  have left : ∀ name ∈ ["process-definition", "key"], isDriveLike name = false := by decide
  -- read as tests of the characters there are, since a bound on characters is decided
  -- by going through all of Unicode
  have stays : ∀ more ∈ [['\\'], []], ∀ name ∈ ["process-definition", "key"],
      (name.toList.all fun c => !Percent.isEncoded (pathReserved ++ ['/', '%'] ++ more) c) =
        true := by decide
  have kept : ∀ name ∈ ["process-definition", "key"], written scheme name = name := by
    intro name h
    refine written_of_plain fun c inside => ?_
    rw [segmentReserved]
    split
    · simpa using List.all_eq_true.mp (stays ['\\'] (by decide) name h) c inside
    · simpa using List.all_eq_true.mp (stays [] (by decide) name h) c inside
  refine ⟨plain name h, named name h, ?_⟩
  rw [kept name h]
  exact left name h

/-- A request has a name in front. -/
theorem head?_ne_empty (form : Form method path) : path.head? ≠ some "" := by
  cases form <;> simp

/-- Below any path, the segments of a request lead to their landing. -/
theorem foldl_addSegment (form : Form method path) (scheme : String) (list : List String) :
    path.foldl (addSegment scheme) list =
      nonempty list ++
        (settled (nonempty list) (landing path)).map (written scheme) := by
  cases form with
  | deployment =>
    rw [foldl_addSegment_of_plain (by decide) (by decide), landing_of_plain (by decide),
      settled_of_named (by decide)]
  | startById id =>
    exact foldl_addSegment_landing (List.cons_ne_nil "process-definition" [])
      (fun _ h => isSteady_of_mem (List.mem_append_left ["key"] h)) (by decide)
  | startByKey key =>
    exact foldl_addSegment_landing (List.cons_ne_nil "process-definition" ["key"])
      (fun _ h => isSteady_of_mem h) (by decide)
  | suspension key =>
    exact foldl_addSegment_landing (List.cons_ne_nil "process-definition" ["key"])
      (fun _ h => isSteady_of_mem h) (by decide)
  | jobSuspension =>
    rw [foldl_addSegment_of_plain (by decide) (by decide), landing_of_plain (by decide),
      settled_of_named (by decide)]

/-- The names that the paths of requests begin with. -/
def names : List String := ["deployment", "process-definition", "job-definition"]

theorem ne_of_mem_names {name : String} (h : name ∈ names) : name ≠ "" ∧ name ≠ "start" := by
  revert name
  decide

/-- A request leads to a place below a name, unless it takes the place of the only name in
front of it. -/
theorem landing_cases (form : Form method path) :
    (∃ name ∈ names, (landing path).head? = some name) ∨ landing path = ["", "start"] := by
  -- names that are all left in place have the first one in front
  have kept : ∀ {rest landed : List String}, "process-definition" :: rest <+: landed →
      ∃ name ∈ names, landed.head? = some name := by
    rintro rest _ ⟨behind, rfl⟩
    exact ⟨"process-definition", by decide, rfl⟩
  cases form with
  | deployment => exact .inl ⟨"deployment", by decide, by decide⟩
  | startById id =>
    obtain held | left := landing_free_cases ["process-definition"] id "start" (by decide)
      (by decide)
    · exact .inl (kept held)
    · exact .inr left
  | startByKey key =>
    obtain held | left := landing_free_cases ["process-definition", "key"] key "start"
      (by decide) (by decide)
    · exact .inl (kept held)
    · exact .inl ⟨"process-definition", by decide, left ▸ rfl⟩
  | suspension key =>
    obtain held | left := landing_free_cases ["process-definition", "key"] key "suspended"
      (by decide) (by decide)
    · exact .inl (kept held)
    · exact .inl ⟨"process-definition", by decide, left ▸ rfl⟩
  | jobSuspension => exact .inl ⟨"job-definition", by decide, by decide⟩

/-- A request leads to some segment, wherever it settles. -/
theorem settled_ne_nil (form : Form method path) (base : List String) :
    settled base (landing path) ≠ [] := by
  obtain ⟨name, member, head⟩ | up := form.landing_cases
  · rw [settled_of_named (by simpa [head] using (ne_of_mem_names member).1)]
    intro none
    simp [none] at head
  · rw [up, settled]
    split <;> simp

/-- The path of a request below a root. -/
theorem hasPath_extend (form : Form method path) {u : Url} {list : List String}
    (h : HasPath u list) :
    HasPath (u.extend path) (rootSegments list ++
      (settled (rootSegments list) (landing path)).map (written u.scheme)) := by
  refine Url.hasPath_extend h (form.settled_ne_nil _) ?_
  rw [form.foldl_addSegment, nonempty_withoutEmptyLast h.some]

/-- Plain segments stand behind those of the root, each as it is written. -/
theorem hasPath_extend_of_plain (form : Form method path)
    (plain : ∀ segment ∈ path, IsPlain segment) {u : Url} {list : List String}
    (h : HasPath u list) :
    HasPath (u.extend path) (rootSegments list ++ path.map (written u.scheme)) := by
  have below := form.hasPath_extend h
  rwa [landing_of_plain plain, settled_of_named form.head?_ne_empty] at below

/-- Below any path, two requests stand in one place only if their landings are the same. -/
theorem settled_injective (form : Form method path) (second : Form other way)
    {base : List String} (h : settled base (landing path) = settled base (landing way)) :
    landing path = landing way := by
  -- a place below a name is not changed, and differs from the other one in its first segment
  have named : ∀ {landed : List String} {name : String},
      name ∈ names → landed.head? = some name →
      settled base landed = landed ∧ landed ≠ settled base ["", "start"] := by
    intro landed name member head
    obtain ⟨some, other⟩ := ne_of_mem_names member
    refine ⟨settled_of_named (by simpa [head] using some) base, ?_⟩
    rintro rfl
    rw [settled] at head
    split at head
    · exact other (Option.some.inj head).symm
    · exact some (Option.some.inj head).symm
  obtain ⟨name, member, head⟩ | up := form.landing_cases
  · obtain ⟨name', member', head'⟩ | up' := second.landing_cases
    · rwa [(named member head).1, (named member' head').1] at h
    · rw [(named member head).1, up'] at h
      exact absurd h (named member head).2
  · obtain ⟨name', member', head'⟩ | up' := second.landing_cases
    · rw [(named member' head').1, up] at h
      exact absurd h.symm (named member' head').2
    · rw [up, up']

end Request.Form

/-- Where a request goes, and what is asked there. -/
def HttpRequest.target (x : HttpRequest) : HttpMethod × String := (x.method, x.url)

namespace Client

open Url

variable {client : Client} {u : Url} {r s : Request}

/-- The root URL of a client, if it is a URL of the web. -/
def webRoot? (client : Client) : Option Url :=
  match Url.parse client.root with
  | .ok u => if isWeb u then some u else none
  | .error _ => none

/-- A root without a path. It has one empty segment. -/
def bareRoot : Url :=
  ⟨"http", ⟨"", none⟩, some "engine", none, .segments [""], false, none, none⟩

theorem webRoot?_bare : webRoot? (ofRoot "http://engine") = some bareRoot := by rfl

theorem parse_of_webRoot? (root : client.webRoot? = some u) :
    Url.parse client.root = .ok u ∧ isWeb u = true := by
  rw [webRoot?] at root
  split at root
  next parsed =>
    split at root
    next web =>
      obtain rfl := Option.some.inj root
      exact ⟨parsed, web⟩
    · nomatch root
  · nomatch root

/-- A root in the web has a path. -/
theorem exists_hasPath (root : client.webRoot? = some u) : ∃ list, HasPath u list := by
  obtain ⟨parsed, web⟩ := parse_of_webRoot? root
  have known : u.scheme = "http" ∨ u.scheme = "https" := by simpa [isWeb] using web
  refine exists_hasPath_of_parse parsed ?_ ?_
  · obtain h | h := known <;> rw [h] <;> decide
  · obtain h | h := known <;> rw [h] <;> decide

/-- Below a root in the web every path has a URL. -/
theorem url_eq (root : client.webRoot? = some u) (path : List String) :
    client.url path = .ok (u.extend path) := by
  obtain ⟨list, h⟩ := exists_hasPath root
  rw [url, (parse_of_webRoot? root).1]
  simp [hasSegments, h.path]

/-- Two planned requests go to one place exactly if their methods and their landings are
the same, whatever calls there were before them. So requests of plain segments are told apart
by their methods and paths. -/
theorem target_eq_iff (root : client.webRoot? = some u)
    {resource action resource' action' : String} {payload payload' : Json}
    (first : Request.plan resource action payload = .ok r)
    (second : Request.plan resource' action' payload' = .ok s) (n m : Nat) :
    ∃ a b, client.url r.path = .ok a ∧ client.url s.path = .ok b ∧
      ((client.httpRequest n r a).target = (client.httpRequest m s b).target ↔
        r.method = s.method ∧ landing r.path = landing s.path) ∧
      ((∀ segment ∈ r.path ++ s.path, IsPlain segment) →
        r.method ≠ s.method ∨ r.path ≠ s.path →
        (client.httpRequest n r a).target ≠ (client.httpRequest m s b).target) := by
  obtain ⟨list, h⟩ := exists_hasPath root
  have form := Request.form_of_plan first
  have form' := Request.form_of_plan second
  have meet : (client.httpRequest n r (u.extend r.path)).target =
      (client.httpRequest m s (u.extend s.path)).target ↔
        r.method = s.method ∧ landing r.path = landing s.path := by
    change (HttpMethod.of r.method, (u.extend r.path).sent.text) =
      (HttpMethod.of s.method, (u.extend s.path).sent.text) ↔ _
    rw [Prod.mk.injEq, HttpMethod.of.injEq,
      sent_extend_eq_iff h (form.hasPath_extend h) (form'.hasPath_extend h)]
    refine and_congr_right fun _ => ⟨fun same => ?_, fun same => by rw [same]⟩
    have settled_same := List.append_cancel_left same
    exact form.settled_injective form'
      ((List.map_inj_right fun _ _ => written_injective).mp settled_same)
  refine ⟨_, _, url_eq root r.path, url_eq root s.path, meet, ?_⟩
  intro plain differ same
  obtain ⟨plain_r, plain_s⟩ := List.forall_mem_append.mp plain
  rw [meet, landing_of_plain plain_r, landing_of_plain plain_s] at same
  obtain method | path := differ
  · exact method same.1
  · exact path same.2

/-- A key with a slash is not taken for an id with one. -/
theorem target_of_slashed_key :
    ∃ r s a b,
      Request.plan "process-definition" "start" (.obj [("key", .str "a/b?")]) = .ok r ∧
      Request.plan "process-definition" "start" (.obj [("id", .str "key/a")]) = .ok s ∧
      url (ofRoot "http://engine/rest?tenant") r.path = .ok a ∧
      url (ofRoot "http://engine/rest?tenant") s.path = .ok b ∧
      (httpRequest (ofRoot "http://engine/rest?tenant") 0 r a).target ≠
        (httpRequest (ofRoot "http://engine/rest?tenant") 1 s b).target := by
  have root : webRoot? (ofRoot "http://engine/rest?tenant") =
      some ⟨"http", ⟨"", none⟩, some "engine", none, .segments ["rest"], false,
        some "tenant", none⟩ := by rfl
  have first : Request.plan "process-definition" "start" (.obj [("key", .str "a/b?")]) =
      .ok ⟨.post, ["process-definition", "key", "a/b?", "start"], .json (.obj [])⟩ := by rfl
  have second : Request.plan "process-definition" "start" (.obj [("id", .str "key/a")]) =
      .ok ⟨.post, ["process-definition", "key/a", "start"], .json (.obj [])⟩ := by rfl
  obtain ⟨a, b, url_r, url_s, -, apart⟩ := target_eq_iff root first second 0 1
  exact ⟨_, _, a, b, first, second, url_r, url_s, apart (by decide) (.inr (by decide))⟩

/-- An instance of the definition with the key `.` is started at the place where one of the
definition with the id `key` is. -/
theorem target_of_dot_key :
    ∃ r s a b,
      Request.plan "process-definition" "start" (.obj [("key", .str ".")]) = .ok r ∧
      Request.plan "process-definition" "start" (.obj [("id", .str "key")]) = .ok s ∧
      r.path ≠ s.path ∧
      url (ofRoot "http://engine") r.path = .ok a ∧ url (ofRoot "http://engine") s.path = .ok b ∧
      (httpRequest (ofRoot "http://engine") 0 r a).target =
        (httpRequest (ofRoot "http://engine") 1 s b).target :=
  ⟨⟨.post, ["process-definition", "key", ".", "start"], .json (.obj [])⟩,
    ⟨.post, ["process-definition", "key", "start"], .json (.obj [])⟩,
    ⟨"http", ⟨"", none⟩, some "engine", none, .segments ["process-definition", "key", "start"],
      false, none, none⟩,
    ⟨"http", ⟨"", none⟩, some "engine", none, .segments ["process-definition", "key", "start"],
      false, none, none⟩,
    rfl, rfl, by decide, rfl, rfl, rfl⟩

/-- A planned request of plain segments has a URL with what its root has in front of the
path and behind it. In the path as it is written the segments of the root come first, and
then one for each segment of the request, in order, which can be read back from it. -/
theorem url_of_plain (root : client.webRoot? = some u) {resource action : String}
    {payload : Json} (planned : Request.plan resource action payload = .ok r)
    (plain : ∀ segment ∈ r.path, IsPlain segment) :
    ∃ a list added,
      client.url r.path = .ok a ∧
      a.scheme = u.scheme ∧ a.authorityText = u.authorityText ∧ a.query = u.query ∧
      u.path = .segments list ∧ a.path = .segments (rootSegments list ++ added) ∧
      splitAt (fun c => c == '/') u.pathText.toList = [] :: list.map String.toList ∧
      splitAt (fun c => c == '/') a.pathText.toList =
        [] :: (rootSegments list ++ added).map String.toList ∧
      (∀ c ∈ a.pathText.toList, c ≠ '?' ∧ c ≠ '#') ∧
      List.Forall₂ (fun segment text =>
        Utf8.decode? (Percent.decode text.toList) = some segment.toList) r.path added := by
  obtain ⟨list, h⟩ := exists_hasPath root
  have form := Request.form_of_plan planned
  have below := form.hasPath_extend_of_plain plain h
  refine ⟨u.extend r.path, list, r.path.map (written u.scheme), url_eq root r.path, ?_, ?_, ?_,
    h.path, below.path, splitAt_pathText h, splitAt_pathText below, ?_, ?_⟩
  · rw [extend_of_hasPath h]
  · rw [extend_of_hasPath h]
    rfl
  · rw [extend_of_hasPath h]
  · intro c inside
    constructor
    · rintro rfl
      exact not_mem_pathText below (.inl rfl) inside
    · rintro rfl
      exact not_mem_pathText below (.inr rfl) inside
  · rw [List.forall₂_map_right_iff, List.forall₂_same]
    intro segment _
    exact Utf8.decode?_eq_some_iff.mpr (decode_written u.scheme segment).symm

/-- A key of characters with a meaning in URLs, and of others that are encoded. -/
theorem url_of_reserved_key :
    ∃ r a added,
      Request.plan "process-definition" "suspend" (.obj [("key", .str "é/%2e?#\"")]) = .ok r ∧
      url (ofRoot "https://me@engine:8080/rest/?a=b") r.path = .ok a ∧
      a.query = some "a=b" ∧ a.path = .segments (["rest"] ++ added) ∧
      List.Forall₂ (fun segment text =>
        Utf8.decode? (Percent.decode text.toList) = some segment.toList) r.path added := by
  have root : webRoot? (ofRoot "https://me@engine:8080/rest/?a=b") =
      some ⟨"https", ⟨"me", none⟩, some "engine", some 8080, .segments ["rest", ""], false,
        some "a=b", none⟩ := by rfl
  have planned : Request.plan "process-definition" "suspend"
      (.obj [("key", .str "é/%2e?#\"")]) =
      .ok ⟨.put, ["process-definition", "key", "é/%2e?#\"", "suspended"],
        .json (.obj [("includeProcessInstances", .bool false), ("suspended", .bool true)])⟩ := by
    rfl
  obtain ⟨a, list, added, url_r, -, -, query, path, below, -, -, -, read⟩ :=
    url_of_plain root planned (by decide)
  obtain rfl := UrlPath.segments.inj path
  exact ⟨_, a, added, planned, url_r, query, below, read⟩

/-- Behind a root of two empty segments, a request leaves neither of them in place. -/
theorem url_of_doubled_slash :
    ∃ u list r a,
      webRoot? (ofRoot "http://engine//") = some u ∧ u.path = .segments list ∧
      list.getLast? = some "" ∧
      Request.plan "process-definition" "start"
        (.obj [("businessKey", .str "b"), ("key", .str "p")]) = .ok r ∧
      (∀ segment ∈ r.path, IsPlain segment) ∧
      url (ofRoot "http://engine//") r.path = .ok a ∧
      ∀ added, added.length = r.path.length → a.path ≠ .segments (list.dropLast ++ added) := by
  refine ⟨⟨"http", ⟨"", none⟩, some "engine", none, .segments ["", ""], false, none, none⟩,
    ["", ""], ⟨.post, ["process-definition", "key", "p", "start"],
      .json (.obj [("businessKey", .str "b")])⟩,
    ⟨"http", ⟨"", none⟩, some "engine", none,
      .segments ["process-definition", "key", "p", "start"], false, none, none⟩,
    rfl, rfl, rfl, rfl, by decide, rfl, ?_⟩
  intro added length path
  -- the URL has no more segments than the request
  have count := congrArg List.length (UrlPath.segments.inj path)
  simp [length] at count

end Client
end Rehearsal
