import Rehearsal.Log.Filter
import Rehearsal.Command.Setup

/-!
# The command

What an invocation prints, what it returns, and what it sends to the engine. Of
the two outputs one has results only, the other has notices and the error that
ended the command.
-/

namespace Rehearsal

/-- What the command finds where it is started. -/
structure Host where
  files : Files
  environment : List (String × String)
  /-- The output of results is a terminal. -/
  outputIsTerminal : Bool
  /-- The output of notices and errors is a terminal. -/
  errorIsTerminal : Bool

namespace Host

/-- The value of a name in the environment. -/
def value? (host : Host) (name : String) : Option String := Table.get? name host.environment

/-- Tells whether an output shows colors: it is a terminal with a name, is not dumb, and nobody
wants it to be without. -/
def showsColor (host : Host) (terminal : Bool) : Bool :=
  terminal && (host.value? "NO_COLOR").isNone &&
    (host.value? "TERM").any (· != "dumb")

/-- Tells whether a terminal is asked for colors. A wish for colors counts also where the output
is not a terminal. -/
def escapes (host : Host) : Bool :=
  (host.showsColor host.outputIsTerminal && host.value? "CLICOLOR" != some "0") ||
    (host.value? "CLICOLOR_FORCE").any (· != "0")

/-- How notices are shown. -/
def reporter (host : Host) (p : Presentation) : Reporter where
  quiet := p.verbosity.isQuiet
  colored := p.color.isColored (host.showsColor host.errorIsTerminal)
  escapes := host.escapes

end Host

/-- What the command leaves behind. -/
structure Ending (ε : Type) where
  memory : ε
  exitCode : Nat
  stdout : String
  stderr : String

namespace Ending

variable {ε : Type}

/-- The end of a command with a result or an error, after notices. -/
def of (memory : ε) (notices : String) : Except CommandError String → Ending ε
  | .ok stdout => ⟨memory, 0, stdout, notices⟩
  | .error e => ⟨memory, 1, "", notices ++ s!"Error: {e.message}\n"⟩

end Ending

/-- The plan of the scenario of a name. -/
def planText (files : Files) (scenario : String) (format : PlanFormat)
    (resources : Option String) : Except CommandError String := do
  let s ← Suite.resolve scenario files (resources.elim .bundled ResourceFolder.mk)
  s.render format

namespace Invocation

variable {ε : Type}

/-- Does what is asked for. -/
def run (i : Invocation) (host : Host) (link : Link ε) (memory : ε) : Ending ε :=
  match i.action with
  | .list => .of memory "" (.ok Suite.catalogText)
  | .plan scenario format resources =>
    .of memory "" (planText host.files scenario format resources)
  | .setup scenario config restUrl resources json =>
    let options : SetupOptions := ⟨scenario, config, restUrl, resources⟩
    let result := options.run host.files link memory
    let shown (report : Report) := if json then report.toJson.prettyText ++ "\n" else ""
    let notices := (host.reporter i.presentation).text result.notices
    .of result.memory notices (result.report.map shown)

/-- The paths that are looked at, as far as the files already known tell. -/
def paths (i : Invocation) (files : Files) : List String :=
  let fixture (folder : ResourceFolder) := folder.pathOf ResourceFolder.suspensionProcessFile
  match i.action with
  | .list => []
  | .plan _ _ resources => [fixture (resources.elim .bundled ResourceFolder.mk)]
  | .setup _ config restUrl resources _ =>
    config.toList ++
      match Config.forRun files config restUrl resources with
      | .ok c => [fixture c.resources]
      | .error _ => []

end Invocation

/-- What is said when there is no invocation. -/
def Usage.text : String :=
  "Usage: cockpit-e2e [-q] [-v] [--color auto|always|never] list | plan | setup\n"

/-- The command for the words of a command line. -/
def runCommand {ε : Type} (host : Host) (link : Link ε) (memory : ε) (arguments : List String) :
    Except Usage (Ending ε) := do
  let invocation ← Arguments.parse host.environment arguments
  return invocation.run host link memory

end Rehearsal
