import Rehearsal.Json.Value

/-!
# Scenarios

A scenario is a list of operations, each an action on a resource with the
payloads to send to it in order. Scenarios are put together from parts, and
what counts in the end is the list of calls that they amount to.
-/

namespace Rehearsal

/-- An action on a resource, with the payloads of its calls in order. -/
structure Operation where
  resource : String
  action : String
  payloads : List Json

/-- The name of an operation in logs and reports. -/
def Operation.label (op : Operation) : String := s!"{op.resource}.{op.action}"

/-- A list of operations. -/
structure Scenario where
  operations : List Operation

/-- One payload of one operation, with the positions of both. -/
structure Call where
  resource : String
  action : String
  payload : Json
  operationIndex : Nat
  payloadIndex : Nat

namespace Scenario

/-- The scenario without operations. -/
def empty : Scenario := ⟨[]⟩

def ofOperation (op : Operation) : Scenario := ⟨[op]⟩

/-- One scenario after another. -/
def andThen (first second : Scenario) : Scenario := ⟨first.operations ++ second.operations⟩

/-- Scenarios in a row. -/
def combine (parts : List Scenario) : Scenario := parts.foldl andThen empty

/-- The calls of an operation that stands at a position. -/
def callsOf (operationIndex : Nat) (op : Operation) : List Call :=
  op.payloads.mapIdx fun payloadIndex payload =>
    ⟨op.resource, op.action, payload, operationIndex, payloadIndex⟩

/-- The calls in the order in which they are made. -/
def calls (s : Scenario) : List Call := (s.operations.mapIdx callsOf).flatten

/-- The number of calls. -/
def callCount (s : Scenario) : Nat := (s.operations.map fun op => op.payloads.length).foldr (· + ·) 0

/-- A scenario that makes no calls, whether or not it has operations. -/
def isEmpty (s : Scenario) : Bool := s.callCount == 0

/-- Equality of scenarios, with their payloads compared as values. -/
def same (s t : Scenario) : Bool :=
  s.operations.length == t.operations.length &&
    (s.operations.zip t.operations).all fun (a, b) =>
      a.resource == b.resource && a.action == b.action && Json.sameItems a.payloads b.payloads

@[simp] theorem operations_andThen (s t : Scenario) :
    (s.andThen t).operations = s.operations ++ t.operations := rfl

@[simp] theorem operations_ofOperation (op : Operation) :
    (ofOperation op).operations = [op] := rfl

@[simp] theorem empty_andThen (s : Scenario) : empty.andThen s = s := rfl

@[simp] theorem andThen_empty (s : Scenario) : s.andThen empty = s := by
  simp [andThen, empty]

theorem andThen_assoc (s t u : Scenario) :
    (s.andThen t).andThen u = s.andThen (t.andThen u) := by
  simp [andThen]

/-- Combining joins the operations of the parts. -/
theorem operations_combine (parts : List Scenario) :
    (combine parts).operations = (parts.map operations).flatten := by
  suffices h : ∀ s : Scenario,
      (parts.foldl andThen s).operations = s.operations ++ (parts.map operations).flatten by
    simpa [combine, empty] using h empty
  induction parts with
  | nil => simp
  | cons part parts ih => intro s; simp [ih]

end Scenario

/-- How a scenario is put together from parts. -/
inductive Part where
  | operation (op : Operation)
  | combined (parts : List Part)
  | appended (first next : Part)

mutual

/-- The scenario that a part stands for. -/
def Part.scenario : Part → Scenario
  | .operation op => .ofOperation op
  | .combined parts => .combine (Part.scenarios parts)
  | .appended first next => first.scenario.andThen next.scenario

def Part.scenarios : List Part → List Scenario
  | [] => []
  | part :: parts => part.scenario :: Part.scenarios parts

end

end Rehearsal
