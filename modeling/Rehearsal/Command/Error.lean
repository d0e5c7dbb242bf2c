import Rehearsal.Error

/-!
# Errors of the command

What ends the command with a message: an error of the library, or one of the
command itself.
-/

namespace Rehearsal

/-- Why the command failed. -/
inductive CommandError where
  | config (message : String)
  /-- There is no scenario with this name. -/
  | unknownScenario (name : String)
  /-- What was to be printed has no text. -/
  | output (message : String)
  | file (message : String)
  | library (e : Error)

namespace CommandError

def message : CommandError → String
  | .config message => s!"Configuration error: {message}"
  | .unknownScenario name => s!"Unknown scenario: {name} (see `cockpit-e2e list`)"
  | .output message => s!"Output error: {message}"
  | .file message => s!"I/O error: {message}"
  | .library e => e.message

/-- What is wrong with a JSON text, as an error of output. -/
def ofJson (fault : Json.Fault) : CommandError := .output fault.message

/-- A result of the library as one of the command. -/
def lift {α : Type} (result : Except Error α) : Except CommandError α := result.mapError .library

end CommandError
end Rehearsal
