import Rehearsal.Json.Typed
import Rehearsal.Scenario.Basic

/-!
# Scenarios as JSON

A scenario as a JSON document, its fields in the order of their declaration,
and the reader of such documents.
-/

namespace Rehearsal

open Json

namespace Operation

def toJson (op : Operation) : Json :=
  .obj [("resource", .str op.resource), ("action", .str op.action), ("payloads", .arr op.payloads)]

def shape : Shape Operation (Put Operation) where
  name := "Operation"
  start := ⟨"", "", []⟩
  fields :=
    [textField "resource" .refused (fun _ => text) fun op resource => { op with resource },
      textField "action" .refused (fun _ => text) fun op action => { op with action },
      textField "payloads" .refused (list value) fun op payloads => { op with payloads }]

/-- The operation of a JSON text. -/
def parse (input : String) : Except Fault Operation :=
  document (record shape maxDepth) input.toList

end Operation

namespace Scenario

def toJson (s : Scenario) : Json := .obj [("operations", .arr (s.operations.map Operation.toJson))]

def shape : Shape Scenario (Put Scenario) where
  name := "Scenario"
  start := empty
  fields :=
    [textField "operations" .refused (list (record Operation.shape)) fun _ operations => ⟨operations⟩]

/-- The scenario of a JSON text. -/
def parse (input : String) : Except Fault Scenario :=
  document (record shape maxDepth) input.toList

end Scenario
end Rehearsal
