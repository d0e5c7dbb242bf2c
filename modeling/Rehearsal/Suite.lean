import Rehearsal.Resource.Bundled
import Rehearsal.Scenario.Basic

/-!
# Named scenarios

The catalog of scenarios that can be asked for by name, and how each is built
from a folder of fixture files.
-/

namespace Rehearsal

/-- A scenario with a name. -/
structure Suite where
  name : String
  description : String
  build : Files → ResourceFolder → Except Error Scenario

namespace Suite

/-- The key of the process that the suspension scenarios start. -/
def suspensionKey : String := "suspension-process"

/-- The business keys of the instances, in the order in which they are started. -/
def suspensionBusinessKeys : List String := ["Instance1", "Instance2", "myBusinessKey"]

/-- Deploys the suspension process of the folder and starts its instances. -/
def suspensionSetup (files : Files) (folder : ResourceFolder) : Except Error Scenario := do
  let content ← folder.read files ResourceFolder.suspensionProcessFile
  let file := filePayload ResourceFolder.suspensionProcessFile content
  let start (businessKey : String) :=
    Json.object [("key", .str suspensionKey), ("businessKey", .str businessKey)]
  return Scenario.combine
    [.ofOperation ⟨"deployment", "create",
        [Json.object [("deploymentName", .str suspensionKey), ("files", .arr [file])]]⟩,
      .ofOperation ⟨"process-definition", "start", suspensionBusinessKeys.map start⟩]

/-- All scenarios with names. -/
def catalog : List Suite :=
  [⟨"suspension::setup1", "deploy suspension-process and start three instances", suspensionSetup⟩]

/-- The scenario of a name, or `none` for a name that is not in the catalog. -/
def build? (name : String) (files : Files) (folder : ResourceFolder) :
    Option (Except Error Scenario) :=
  (catalog.find? fun suite => suite.name == name).map fun suite => suite.build files folder

end Suite
end Rehearsal
