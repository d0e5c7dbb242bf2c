import Rehearsal.Command.Arguments
import Rehearsal.Command.Error
import Rehearsal.Engine.Request
import Rehearsal.Json.Printer
import Rehearsal.Scenario.Notation
import Rehearsal.Suite
import Rehearsal.Yaml.Printer

/-!
# Plans

What a scenario would send, shown without sending it: as one line for each
call, or as the scenario itself in one of two notations.
-/

namespace Rehearsal

namespace Suite

/-- The catalog for people to read: names in a column, and what they stand for. -/
def catalogText : String :=
  let width := (catalog.map fun suite => suite.name.utf8ByteSize).foldl max 0
  let line (suite : Suite) : String :=
    let gap := List.replicate (width - suite.name.length) ' '
    suite.name ++ String.ofList gap ++ "  " ++ suite.description ++ "\n"
  String.join (catalog.map line)

/-- The scenario of a name, which has to be in the catalog. -/
def resolve (name : String) (files : Files) (folder : ResourceFolder) :
    Except CommandError Scenario :=
  match build? name files folder with
  | some result => CommandError.lift result
  | none => .error (.unknownScenario name)

end Suite

/-- The files of a deployment with their sizes. -/
def DeployedFile.summary (file : DeployedFile) : String :=
  s!"{file.name} ({file.content.length} bytes)"

/-- The body of a request on one line: all of a JSON body, and the names of the files of a
deployment. -/
def Body.summary : Body → String
  | .json value => value.compactText
  | .deployment d =>
    let files := ", ".intercalate (d.files.map DeployedFile.summary)
    s!"{d.name} [{files}]"

/-- A request on one line. -/
def Request.summary (r : Request) : String :=
  s!"{r.method.name} {r.pathText} {r.body.summary}"

namespace Call

/-- A call and the request that it becomes. -/
def summary (c : Call) : Except Error String := do
  let request ← Request.plan c.resource c.action c.payload
  return s!"{c.resource}.{c.action}  {request.summary}"

/-- The text of a number, right-aligned in three columns. -/
def numeral (n : Nat) : String :=
  let digits := toString n
  String.ofList (List.replicate (3 - digits.length) ' ') ++ digits

/-- The line of a call with its number in a plan. -/
def line (n : Nat) (c : Call) : Except Error String := do
  let summary ← c.summary
  return s!"{numeral n}. {summary}\n"

end Call

namespace Scenario

/-- The lines of calls, the first of which has the number `n`. The first call without a
request decides. -/
def planLines : (n : Nat) → List Call → Except Error (List String)
  | _, [] => .ok []
  | n, c :: rest => do
    let line ← c.line n
    let lines ← planLines (n + 1) rest
    return line :: lines

/-- The plan of a scenario as text. -/
def planText (s : Scenario) : Except Error String := do
  let lines ← planLines 1 s.calls
  return String.join lines

/-- The plan of a scenario. -/
def render (s : Scenario) : PlanFormat → Except CommandError String
  | .text => CommandError.lift s.planText
  | .json => .ok (s.toJson.prettyText ++ "\n")
  | .yaml => .ok (String.ofList (Yaml.document s.toJson))

end Scenario
end Rehearsal
