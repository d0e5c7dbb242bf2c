import Rehearsal.Command.Run

/-!
# The program

Reads what an invocation looks at, does what it asks for, and prints. There is
no connection to an engine here, so a scenario is never answered.
-/

namespace Rehearsal

/-- What stands at a path of the machine. -/
def probe (path : String) : IO (Except FileFault Node) := do
  try
    return .ok (.file (← IO.FS.readBinFile path).toList)
  catch
    | .noFileOrDirectory .. => return .error .notFound
    | .inappropriateType _ code _ => return if code = 21 then .ok .folder else .error .notFolder
    | e => return .error (.other (toString e))

/-- Looks at paths of the machine. The bundled files are there wherever the program is. -/
def probeAll (paths : List String) : IO Files := do
  let known ← paths.mapM fun path => return (path, ← probe path)
  let found : Files := ⟨fun path => (Table.get? path known).getD (.error .notFound)⟩
  return found.orElse ResourceFolder.bundledTree.files

/-- The names of the environment that the command looks at. -/
def environmentNames : List String :=
  ["COCKPIT_E2E_CONFIG", "COCKPIT_E2E_REST_URL", "NO_COLOR", "TERM", "CLICOLOR", "CLICOLOR_FORCE"]

/-- The values of those names. -/
def readEnvironment : IO (List (String × String)) := do
  let values ← environmentNames.mapM fun name => return (name, ← IO.getEnv name)
  return values.filterMap fun (name, value) => value.map fun value => (name, value)

/-- The link to an engine that is never reached. -/
def noLink : Link Unit := ⟨Engine.unreachable, fun _ => "", fun _ _ _ _ _ => .stays, .still ""⟩

end Rehearsal

open Rehearsal in
def main (arguments : List String) : IO UInt32 := do
  let stdout ← IO.getStdout
  let stderr ← IO.getStderr
  let environment ← readEnvironment
  match Arguments.parse environment arguments with
  | .error usage =>
    (if usage.exitCode = 0 then stdout else stderr).putStr Usage.text
    return usage.exitCode.toUInt32
  | .ok invocation =>
    let files ← probeAll (invocation.paths .empty)
    let files ← probeAll (invocation.paths files)
    let host : Host := ⟨files, environment, ← stdout.isTty, ← stderr.isTty⟩
    let ending := invocation.run host noLink ()
    stdout.putStr ending.stdout
    stderr.putStr ending.stderr
    return ending.exitCode.toUInt32
