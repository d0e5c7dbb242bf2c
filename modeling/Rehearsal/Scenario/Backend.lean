import Rehearsal.Error
import Rehearsal.Json.Typed

/-!
# Backends

What answers the calls of a scenario. A backend may remember earlier calls, and
a call may be given up while its answer is still due.
-/

namespace Rehearsal

open Json

/-- What came of a call. -/
inductive Reply where
  | response (value : Json)
  | failure (e : Error)
  /-- The call was given up before an answer came. -/
  | abandoned

/-- What answers calls: from its memory and a call to new memory and what came of it. -/
structure Backend (β : Type) where
  call : β → (resource action : String) → (payload : Json) → β × Reply

namespace Backend

/-- The backend that answers every call, with a response or with a failure. -/
def answering {β : Type}
    (answer : β → (resource action : String) → (payload : Json) → β × Except Error Json) :
    Backend β where
  call memory resource action payload :=
    match answer memory resource action payload with
    | (next, .ok response) => (next, .response response)
    | (next, .error e) => (next, .failure e)

/-- The backend whose call number `index`, counted from zero, is given up before it gets
there. It remembers how many calls there were. -/
def abandoningAt {β : Type} (inner : Backend β) (index : Nat) : Backend (β × Nat) where
  call memory resource action payload :=
    if memory.2 = index then ((memory.1, memory.2 + 1), .abandoned)
    else
      let (next, reply) := inner.call memory.1 resource action payload
      ((next, memory.2 + 1), reply)

end Backend

/-- A call as a backend received it. -/
structure ReceivedCall where
  resource : String
  action : String
  payload : Json

namespace ReceivedCall

def toJson (c : ReceivedCall) : Json :=
  .obj [("resource", .str c.resource), ("action", .str c.action), ("payload", c.payload)]

def shape : Shape ReceivedCall (Put ReceivedCall) where
  name := "RecordedCall"
  start := ⟨"", "", .null⟩
  fields :=
    [textField "resource" .refused (fun _ => text) fun c resource => { c with resource },
      textField "action" .refused (fun _ => text) fun c action => { c with action },
      textField "payload" .refused value fun c payload => { c with payload }]

/-- The call of a JSON text. -/
def parse (input : String) : Except Fault ReceivedCall :=
  document (record shape maxDepth) input.toList

end ReceivedCall

/-- The backend that also keeps every call that it gets, whatever comes of it. -/
def Backend.recorded {β : Type} (inner : Backend β) : Backend (β × List ReceivedCall) where
  call memory resource action payload :=
    let (next, reply) := inner.call memory.1 resource action payload
    ((next, memory.2 ++ [⟨resource, action, payload⟩]), reply)

/-- A backend in memory, which keeps every call that it receives. It answers with the
response set for an action, or `null`, and fails at most one call. -/
structure StandIn where
  received : List ReceivedCall
  /-- Responses under the label of the action. Of responses under one label the last one
  counts. -/
  responses : List (String × Json)
  /-- The number of the call that fails, counted from zero. -/
  failAt : Option Nat

namespace StandIn

/-- The stand-in that has received nothing, and answers everything with `null`. -/
def fresh : StandIn := ⟨[], [], none⟩

/-- Fails the call number `index`. -/
def failingAt (s : StandIn) (index : Nat) : StandIn := { s with failAt := some index }

/-- The label under which responses are kept. -/
def label (resource action : String) : String := s!"{resource}.{action}"

/-- Answers an action with a response. -/
def withResponse (s : StandIn) (resource action : String) (response : Json) : StandIn :=
  { s with responses := (label resource action, response) :: s.responses }

/-- The response to an action. -/
def responseTo (s : StandIn) (resource action : String) : Json :=
  (Table.get? (label resource action) s.responses).getD .null

/-- Receives a call, also one that fails. -/
def receive (s : StandIn) (resource action : String) (payload : Json) : StandIn × Reply :=
  let after := { s with received := s.received ++ [⟨resource, action, payload⟩] }
  if s.failAt = some s.received.length then
    (after, .failure (.backend (some 500) "mock failure"))
  else (after, .response (s.responseTo resource action))

def backend : Backend StandIn := ⟨receive⟩

end StandIn
end Rehearsal
