import Rehearsal.Command.Run
import Rehearsal.Proofs.Command.Plan
import Rehearsal.Proofs.Engine.Deployment

/-!
# Setting up, from the command line to the engine

What a setup sends is known before it begins: the requests that the file of the process
stands for. `Client.Delivers` says how far an engine gets them, and whether it is content
with all of them. From there the result of the command is read off: the exit code, and that
nothing is printed of a setup that has failed.
-/

namespace Rehearsal

open Text Json

/-- The link to an engine that also keeps every request that reaches it. -/
def Link.recorded {ε : Type} (link : Link ε) : Link (ε × List HttpRequest) :=
  ⟨link.engine.recorded, link.boundary, link.onward, link.timing⟩

namespace Client

variable {ε : Type} {client : Client} {u : Url} {engine : Engine ε}

/-- What an engine gets of requests that are sent to it one after another, with `n` calls
before the first of them: a trail for each request, up to the first trail that ends in a
failure, and nothing from the first request on of which none can be made. And whether all of
the requests are sent and all their trails end well. -/
inductive Delivers (client : Client) (u : Url) (engine : Engine ε) :
    (n : Nat) → ε → List Request → List (List HttpRequest) → Bool → Prop
  | all {n : Nat} {state : ε} : Delivers client u engine n state [] [] true
  | accepted {n : Nat} {state next : ε} {r : Request} {requests : List Request} {value : Json}
      {trail : List HttpRequest} {trails : List (List HttpRequest)} {complete : Bool}
      (sendable : isSendable (u.extend r.path) = true)
      (accepted : Trail client engine mostTurns state (client.sending n r (u.extend r.path)) trail
        (.ok value) next)
      (rest : Delivers client u engine (n + 1) next requests trails complete) :
      Delivers client u engine n state (r :: requests) (trail :: trails) complete
  | refused {n : Nat} {state last : ε} {r : Request} {requests : List Request} {e : Error}
      {trail : List HttpRequest} (sendable : isSendable (u.extend r.path) = true)
      (refused : Trail client engine mostTurns state (client.sending n r (u.extend r.path)) trail
        (.error e) last) :
      Delivers client u engine n state (r :: requests) [trail] false
  | unsendable {n : Nat} {state : ε} {r : Request} {requests : List Request}
      (unsendable : isSendable (u.extend r.path) = false) :
      Delivers client u engine n state (r :: requests) [] false

variable {n : Nat} {state middle last : ε} {calls before after : List Call} {c : Call}
variable {r : Request} {requests more : List Request} {responses : List Json}
variable {trails received : List (List HttpRequest)} {sent : List HttpRequest} {complete : Bool}

theorem Delivers.length_le (h : Delivers client u engine n state requests trails complete) :
    ∀ trail ∈ trails, trail.length ≤ mostTurns + 1 := by
  induction h with
  | all => exact List.forall_mem_nil _
  | accepted _ accepted _ ih => exact List.forall_mem_cons.mpr ⟨accepted.length_le, ih⟩
  | refused _ refused => exact List.forall_mem_singleton.mpr refused.length_le
  | unsendable => exact List.forall_mem_nil _

end Client

namespace ResourceFolder

variable {files : Files} {folder : ResourceFolder} {name : String} {content : Bytes}

theorem read_of_file (file : files.node (folder.pathOf name) = .ok (.file content)) :
    folder.read files name = .ok content := by
  have isFile : files.isFile (folder.pathOf name) = true := by
    rw [Files.isFile, file]
  rw [read, if_pos isFile, Files.read, file]
  rfl

end ResourceFolder

namespace Suite

variable {files : Files} {folder : ResourceFolder} {content : Bytes}

/-- The start of an instance of the suspension process. -/
def suspensionStart (businessKey : String) : Json :=
  Json.object [("key", .str suspensionKey), ("businessKey", .str businessKey)]

/-- The suspension scenario over the file of the process. -/
def suspensionScenario (content : Bytes) : Scenario where
  operations :=
    [⟨"deployment", "create",
        [deploymentPayload suspensionKey [⟨ResourceFolder.suspensionProcessFile, content⟩]]⟩,
      ⟨"process-definition", "start", suspensionBusinessKeys.map suspensionStart⟩]

theorem suspensionSetup_of_file
    (file : files.node (folder.pathOf ResourceFolder.suspensionProcessFile) =
      .ok (.file content)) : suspensionSetup files folder = .ok (suspensionScenario content) := by
  rw [suspensionSetup, ResourceFolder.read_of_file file]
  rfl

/-- There is a suspension scenario only over some file of the process. -/
theorem exists_of_suspensionSetup {s : Scenario} (h : suspensionSetup files folder = .ok s) :
    ∃ content, s = suspensionScenario content := by
  cases read : folder.read files ResourceFolder.suspensionProcessFile with
  | error e =>
    rw [suspensionSetup, read] at h
    cases h
  | ok content =>
    rw [suspensionSetup, read] at h
    exact ⟨content, (Except.ok.inj h).symm⟩

end Suite

namespace SetupOptions

variable {ε : Type} {o : SetupOptions} {files : Files} {memory : ε} {c : Config}
variable {scenario : Scenario}

/-- Without a configuration or a scenario nothing is sent. -/
theorem run_of_unprepared (link : Link ε) (memory : ε) {e : CommandError}
    (failed : o.prepare files = .error e) : o.run files link memory = ⟨memory, [], .error e⟩ := by
  rw [run, failed]

theorem run_of_finished (link : Link ε) {runner : Runner (ε × Nat)} {report : Report}
    (prepared : o.prepare files = .ok (c, scenario))
    (finished : Runner.run ((link.client c.restUrl).backend link.engine) link.timing
      (.fresh (memory, 0)) scenario = (runner, .finished report)) :
    o.run files link memory = ⟨runner.memory.1, o.notices c report, .ok report⟩ := by
  rw [run, prepared]
  simp only [finished]

theorem run_of_failed (link : Link ε) {runner : Runner (ε × Nat)} {e : Error}
    (prepared : o.prepare files = .ok (c, scenario))
    (failed : Runner.run ((link.client c.restUrl).backend link.engine) link.timing
      (.fresh (memory, 0)) scenario = (runner, .failed e)) :
    o.run files link memory =
      ⟨runner.memory.1, [.started o.scenario c.restUrl], .error (.library e)⟩ := by
  rw [run, prepared]
  simp only [failed]

/-- The scenario of a setup is that of its name. -/
theorem resolve_of_prepare (prepared : o.prepare files = .ok (c, scenario)) :
    Suite.resolve o.scenario files c.resources = .ok scenario := by
  rw [prepare] at prepared
  cases configured : o.configuration files with
  | error e =>
    rw [configured] at prepared
    cases prepared
  | ok d =>
    cases resolved : Suite.resolve o.scenario files d.resources with
    | error e =>
      simp only [configured, bind, Except.bind, resolved] at prepared
      cases prepared
    | ok s =>
      simp only [configured, bind, Except.bind, resolved] at prepared
      obtain ⟨rfl, rfl⟩ := Prod.mk.inj (Except.ok.inj prepared)
      exact resolved

theorem prepare_suspension {config restUrl resources : Option String}
    (configured : Config.forRun files config restUrl resources = .ok c) :
    prepare ⟨"suspension::setup1", config, restUrl, resources⟩ files =
      (CommandError.lift (Suite.suspensionSetup files c.resources)).map fun s => (c, s) := by
  have resolved : Suite.resolve "suspension::setup1" files c.resources =
      CommandError.lift (Suite.suspensionSetup files c.resources) := rfl
  rw [prepare, configuration, configured]
  change (Suite.resolve "suspension::setup1" files c.resources >>= fun s => pure (c, s)) = _
  rw [resolved]
  cases CommandError.lift (Suite.suspensionSetup files c.resources) <;> rfl

theorem prepare_of_file {config restUrl resources : Option String} {content : Bytes}
    (configured : Config.forRun files config restUrl resources = .ok c)
    (file : files.node (c.resources.pathOf ResourceFolder.suspensionProcessFile) =
      .ok (.file content)) :
    prepare ⟨"suspension::setup1", config, restUrl, resources⟩ files =
      .ok (c, Suite.suspensionScenario content) := by
  rw [prepare_suspension configured, Suite.suspensionSetup_of_file file]
  rfl

end SetupOptions

section Command

variable {ε : Type} {host : Host} {arguments : List String} {invocation : Invocation}
variable {config restUrl resources : Option String} {json : Bool} {c : Config}

/-- A host with a folder `r` that has a process in it, which is no text, and nothing else. -/
def lonelyHost : Host where
  files := ⟨fun path =>
    if path = "r/suspension-process.bpmn" then .ok (.file [0xff, 0x0d]) else .error .notFound⟩
  environment := []
  outputIsTerminal := false
  errorIsTerminal := false

theorem node_lonelyHost :
    lonelyHost.files.node (joinPath "r" "suspension-process.bpmn") = .ok (.file [0xff, 0x0d]) := by
  have place : joinPath "r" "suspension-process.bpmn" = "r/suspension-process.bpmn" := by
    decide +kernel
  rw [place]
  rfl

/-- A link to an engine that leads nobody on. -/
def Link.plain (engine : Engine ε) : Link ε :=
  ⟨engine, fun _ => "boundary", fun _ _ _ _ _ => .stays, .still "run"⟩

end Command
end Rehearsal
