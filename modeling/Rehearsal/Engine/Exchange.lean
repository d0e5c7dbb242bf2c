import Rehearsal.Engine.Multipart
import Rehearsal.Json.Printer
import Rehearsal.Scenario.Backend
import Rehearsal.Text.Blank
import Rehearsal.Url.Parser

/-!
# Talking to the engine

A planned request goes to the engine below its root URL, and what the engine does decides
what comes of the call. An answer may send the client on to another place. The client goes
there, up to a number of times, and then the last answer is the one that counts. An engine is
whatever reacts to requests from a state of its own.
-/

namespace Rehearsal

open Text

/-- How a request is made. Only a request that an answer has led to is made with `get`. -/
inductive HttpMethod where
  | get
  | of (method : Method)
  deriving DecidableEq

/-- A body with its type. -/
structure Content where
  type : String
  bytes : Bytes
  deriving DecidableEq

/-- A request as the engine receives it. -/
structure HttpRequest where
  method : HttpMethod
  url : String
  content : Option Content
  deriving DecidableEq

/-- The statuses of answers that have no body, whatever comes behind their head. -/
def bodiless : List Nat := [101, 204, 304]

/-- An answer to a request. The interim ones that may come before it are none. -/
structure Answer where
  status : Nat
  /-- Where the answer sends whoever gets it. -/
  location : Option String
  /-- The body, or `none` if the answer ends before its body does. -/
  body : Option Bytes
  final : status = 101 ∨ 200 ≤ status ∧ status < 1000
  empty : status ∈ bodiless → body = some []
  deriving DecidableEq

/-- The answer with nothing to say, but that all went well. -/
def Answer.done : Answer := ⟨200, none, some [], by decide, fun _ => rfl⟩

/-- What an engine does with a request. -/
inductive Reaction where
  | answer (a : Answer)
  /-- No answer. -/
  | silence
  deriving DecidableEq

/-- What reacts to requests. -/
structure Engine (ε : Type) where
  react : ε → HttpRequest → ε × Reaction

namespace Engine

/-- The engine that nothing reaches. -/
def unreachable : Engine Unit := ⟨fun _ _ => ((), .silence)⟩

/-- What an engine with prepared reactions has left, and what it has received. -/
structure Prepared where
  reactions : List Reaction
  received : List HttpRequest

/-- The engine that reacts as prepared, and then with empty answers. -/
def prepared : Engine Prepared where
  react state request :=
    match state.reactions with
    | [] => (⟨[], state.received ++ [request]⟩, .answer .done)
    | reaction :: rest => (⟨rest, state.received ++ [request]⟩, reaction)

end Engine

/-- The place that an answer leads to. -/
structure Redirect where
  method : HttpMethod
  url : String
  /-- The request there has the body of the one that was answered. -/
  keepsBody : Bool
  /-- The URL that failures name from there on. -/
  place : String

/-- What a client makes of an answer that sends it to another place. -/
inductive Onward where
  /-- It stays, and takes the answer as it is. -/
  | stays
  | goes (way : Redirect)
  | fails (message : String)

/-- What calls of scenarios are sent with: the root URL of the engine, the boundaries of the
forms, and a rule for answers that send the client to another place. -/
structure Client where
  root : String
  /-- The boundary of the form of a call, by the number of calls before it. -/
  boundary : Nat → String
  /-- What the client does about an answer with a status and a location, to a request with a
  method and a URL, and with a body that can be sent once more or not. -/
  onward : (method : HttpMethod) → (url : String) → (repeatable : Bool) → (status : Nat) →
    (location : String) → Onward

/-- A request on its way. -/
structure Sending where
  request : HttpRequest
  /-- The URL that failures name. -/
  place : String
  /-- The body can be sent once more. A form cannot. -/
  repeatable : Bool

/-- The request that an answer leads to. -/
def Sending.redirected (s : Sending) (way : Redirect) : Sending where
  request := ⟨way.method, way.url, if way.keepsBody then s.request.content else none⟩
  place := way.place
  repeatable := s.repeatable || !way.keepsBody

namespace Client

/-- A client with one boundary for all its forms, which no answer leads on. -/
def ofRoot (root : String) : Client := ⟨root, fun _ => "boundary", fun _ _ _ _ _ => .stays⟩

/-- The URL of a path below the root. -/
def url (client : Client) (path : List String) : Except Error Url :=
  match Url.parse client.root with
  | .error fault => .error (.config s!"invalid REST url {client.root}: {fault.message}")
  | .ok u =>
    if u.hasSegments then .ok (u.extend path)
    else .error (.config s!"REST url {client.root} cannot have a path")

/-- The body of a request as it is sent. -/
def content (boundary : String) : Body → Content
  | .json value => ⟨"application/json", Utf8.encode value.compact⟩
  | .deployment d =>
    ⟨s!"multipart/form-data; boundary={boundary}", formBody boundary d.form⟩

/-- A request as it is sent to a URL, with `n` calls before it. -/
def httpRequest (client : Client) (n : Nat) (r : Request) (u : Url) : HttpRequest :=
  ⟨.of r.method, u.sent.text, some (content (client.boundary n) r.body)⟩

/-- A request on its way to its URL. -/
def sending (client : Client) (n : Nat) (r : Request) (u : Url) : Sending where
  request := client.httpRequest n r u
  place := u.named.text
  repeatable :=
    match r.body with
    | .json _ => true
    | .deployment _ => false

/-- Whether a URL names a place in the web. -/
def isWeb (u : Url) : Bool := u.scheme == "http" || u.scheme == "https"

/-- Characters of hosts that a request cannot have. -/
def unsendable : List Char := ['"', '\x60', '\x7b', '\x7d']

/-- The longest URL of a request. -/
def longestUrl : Nat := 65534

/-- Whether requests can be sent to a URL. -/
def isSendable (u : Url) : Bool :=
  isWeb u && !u.host.any (fun host => host.toList.any unsendable.contains) &&
    u.named.text.utf8ByteSize ≤ longestUrl

/-- A status that says that all went well. -/
def isSuccess (status : Nat) : Bool := 200 ≤ status && status < 300

/-- The value of a body. A body with nothing but blanks is `null`. -/
def read (status : Nat) (body : Bytes) : Except Error Json :=
  let text := String.ofList (Utf8.decodeLossy body)
  if !isSuccess status then .error (.backend (some status) text)
  else if isAllBlank text.toList then .ok .null
  else (Json.parse text).mapError Error.ofJson

/-- What comes of an answer that is taken as it is. -/
def outcome (a : Answer) : Except Error Json :=
  match a.body with
  | some body => read a.status body
  | none => .error (.backend (some a.status) "error decoding response body")

/-- The statuses of answers that can lead a client on. -/
def leading : List Nat := [301, 302, 303, 307, 308]

/-- What the client does about an answer. -/
def lead (client : Client) (s : Sending) (a : Answer) : Onward :=
  match a.location with
  | none => .stays
  | some location =>
    if a.status ∈ leading then
      client.onward s.request.method s.request.url s.repeatable a.status location
    else .stays

/-- How often one request is led on. -/
def mostTurns : Nat := 10

variable {ε : Type}

/-- Sends a request, and goes where answers lead it, up to `turns` times. -/
def exchange (client : Client) (engine : Engine ε) :
    (turns : Nat) → ε → Sending → ε × Except Error Json
  | turns, state, s =>
    match engine.react state s.request with
    | (next, .silence) =>
      (next, .error (.backend none s!"error sending request for url ({s.place})"))
    | (next, .answer a) =>
      match client.lead s a with
      | .stays => (next, outcome a)
      | .fails message => (next, .error (.backend none message))
      | .goes way =>
        match turns with
        | 0 =>
          (next, .error (.backend none s!"error following redirect for url ({s.request.url})"))
        | turns + 1 => exchange client engine turns next (s.redirected way)

/-- Sends a request, with `n` calls before it. -/
def send (client : Client) (engine : Engine ε) (state : ε) (n : Nat) (r : Request) :
    ε × Except Error Json :=
  match client.url r.path with
  | .error e => (state, .error e)
  | .ok u =>
    if isSendable u then client.exchange engine mostTurns state (client.sending n r u)
    else (state, .error (.backend none s!"builder error for url ({u.named.text})"))

/-- Plans a call and sends it. A call that has no plan is not sent. -/
def call (client : Client) (engine : Engine ε) (state : ε) (n : Nat)
    (resource action : String) (payload : Json) : ε × Except Error Json :=
  match Request.plan resource action payload with
  | .error e => (state, .error e)
  | .ok request => client.send engine state n request

/-- An engine as a backend, which remembers how many calls there were. -/
def backend (client : Client) (engine : Engine ε) : Backend (ε × Nat) :=
  .answering fun (state, n) resource action payload =>
    let (next, result) := client.call engine state n resource action payload
    ((next, n + 1), result)

end Client
end Rehearsal
