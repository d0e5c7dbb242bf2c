import Rehearsal.Command.Notice
import Rehearsal.Command.Plan
import Rehearsal.Config.Yaml
import Rehearsal.Engine.Exchange
import Rehearsal.Scenario.Runner

/-!
# Setting up

A scenario is run against the engine of a configuration. The configuration
comes from a file, and what is said on the command line comes on top of it. The
file has to be valid by itself, also where its settings are not used.
-/

namespace Rehearsal

/-- What a scenario is run over: an engine, what goes into a client besides the root of the
engine, and the times at which things happen. -/
structure Link (ε : Type) where
  engine : Engine ε
  boundary : Nat → String
  onward : (method : HttpMethod) → (url : String) → (repeatable : Bool) → (status : Nat) →
    (location : String) → Onward
  timing : Timing

/-- The client for a root. -/
def Link.client {ε : Type} (link : Link ε) (root : String) : Client :=
  ⟨root, link.boundary, link.onward⟩

/-- What is asked for when a scenario is to be run. -/
structure SetupOptions where
  scenario : String
  /-- A configuration file, instead of the default configuration. -/
  config : Option String
  /-- The engine, instead of that of the configuration. -/
  restUrl : Option String
  /-- The folder of fixture files, instead of that of the configuration. -/
  resources : Option String
  deriving DecidableEq

namespace Config

/-- The configuration of a file, or the default one. -/
def base (files : Files) (path : Option String) : Except Error Config :=
  match path with
  | some path => Config.load files path
  | none => .ok .default

/-- A configuration with settings put in place of its own. -/
def layered (c : Config) (restUrl resources : Option String) : Config :=
  { c with
    restUrl := restUrl.getD c.restUrl
    resourcesFolder := resources <|> c.resourcesFolder }

/-- The configuration for a run. -/
def forRun (files : Files) (path restUrl resources : Option String) :
    Except CommandError Config := do
  let c ← CommandError.lift (base files path)
  let c := c.layered restUrl resources
  if isBlankText c.restUrl then throw (.config "REST url must not be empty") else return c

end Config

/-- What is left of a run: the memory of the engine, what was to be said, and the report or
the reason why there is none. -/
structure SetupResult (ε : Type) where
  memory : ε
  notices : List Notice
  report : Except CommandError Report

namespace SetupOptions

variable {ε : Type}

/-- The configuration that is asked for. -/
def configuration (o : SetupOptions) (files : Files) : Except CommandError Config :=
  Config.forRun files o.config o.restUrl o.resources

/-- The configuration and the scenario that are asked for. -/
def prepare (o : SetupOptions) (files : Files) : Except CommandError (Config × Scenario) := do
  let c ← o.configuration files
  let scenario ← Suite.resolve o.scenario files c.resources
  return (c, scenario)

/-- The notices of a run that has answered every call. -/
def notices (o : SetupOptions) (c : Config) (report : Report) : List Notice :=
  .started o.scenario c.restUrl :: report.calls.map .answered ++ [.finished report]

/-- Runs the scenario over the engine of the configuration. Nothing is sent before both are
known. -/
def run (o : SetupOptions) (files : Files) (link : Link ε) (memory : ε) : SetupResult ε :=
  match o.prepare files with
  | .error e => ⟨memory, [], .error e⟩
  | .ok (c, scenario) =>
    let backend := (link.client c.restUrl).backend link.engine
    let (runner, outcome) := Runner.run backend link.timing (.fresh (memory, 0)) scenario
    let (memory, _) := runner.memory
    match outcome with
    | .finished report => ⟨memory, o.notices c report, .ok report⟩
    | .failed e => ⟨memory, [.started o.scenario c.restUrl], .error (.library e)⟩
    | .abandoned =>
      ⟨memory, [.started o.scenario c.restUrl], .error (.output "the run was given up")⟩

end SetupOptions
end Rehearsal
