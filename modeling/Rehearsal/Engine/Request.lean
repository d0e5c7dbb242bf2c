import Rehearsal.Base64
import Rehearsal.Error
import Rehearsal.Json.Decode

/-!
# Requests to the engine

Which request of the engine's web interface a call of a scenario becomes. A
request is planned from the payload alone, before anything is sent.
-/

namespace Rehearsal

open Text Json

/-- The method of a request. -/
inductive Method where
  | post
  | put
  deriving DecidableEq

def Method.name : Method → String
  | .post => "POST"
  | .put => "PUT"

/-- A file of a deployment. -/
structure DeployedFile where
  name : String
  content : Bytes
  deriving DecidableEq

/-- What is sent to deploy files. -/
structure Deployment where
  name : String
  files : List DeployedFile
  enableDuplicateFiltering : Bool
  deployChangedOnly : Bool
  tenantId : Option String
  deriving DecidableEq

/-- The body of a request. -/
inductive Body where
  | json (value : Json)
  | deployment (d : Deployment)

/-- A request, with its path below the root of the engine's interface. -/
structure Request where
  method : Method
  path : List String
  body : Body

/-- The path with slashes, for people to read. -/
def Request.pathText (r : Request) : String := "/".intercalate r.path

/-- A file as a payload describes it: by its text, or by its bytes in base64. -/
structure FileEntry where
  name : String
  content : Option String
  contentBase64 : Option String

def FileEntry.shape : Shape FileEntry (PutValue FileEntry) where
  name := "RawDeploymentFile"
  start := ⟨"", none, none⟩
  fields :=
    [valueField "name" .refused asText fun e name => { e with name },
      valueField "content" .unnamed (asOptional asText) fun e content => { e with content },
      valueField "contentBase64" .unnamed (asOptional asText) fun e contentBase64 =>
        { e with contentBase64 }]

/-- The file of an entry, which has to have exactly one of the two contents. -/
def FileEntry.file (e : FileEntry) : Except Mismatch DeployedFile :=
  match e.content, e.contentBase64 with
  | some content, none => .ok ⟨e.name, Utf8.encode content.toList⟩
  | none, some symbols =>
    match Base64.decode (Utf8.encode symbols.toList) with
    | .ok content => .ok ⟨e.name, content⟩
    | .error fault => .error (.other s!"file {e.name}: invalid contentBase64: {fault.message}")
  | _, _ =>
    .error (.other s!"file {e.name}: exactly one of `content` or `contentBase64` is required")

def DeployedFile.decode : Decoder DeployedFile := fun v => do (← asRecord FileEntry.shape v).file

def Deployment.shape : Shape Deployment (PutValue Deployment) where
  name := "DeploymentRequest"
  start := ⟨"", [], false, false, none⟩
  fields :=
    [valueField "deploymentName" .refused asText fun d name => { d with name },
      valueField "files" .allowed (asList DeployedFile.decode) fun d files => { d with files },
      valueField "enableDuplicateFiltering" .allowed asFlag fun d enableDuplicateFiltering =>
        { d with enableDuplicateFiltering },
      valueField "deployChangedOnly" .allowed asFlag fun d deployChangedOnly =>
        { d with deployChangedOnly },
      valueField "tenantId" .allowed (asOptional asText) fun d tenantId => { d with tenantId }]

/-- What it takes to start an instance of a process definition. -/
structure Start where
  key : Option String
  id : Option String
  businessKey : Option String
  values : Option Json

def Start.shape : Shape Start (PutValue Start) where
  name := "StartInstance"
  start := ⟨none, none, none, none⟩
  fields :=
    [valueField "key" .unnamed (asOptional asText) fun s key => { s with key },
      valueField "id" .unnamed (asOptional asText) fun s id => { s with id },
      valueField "businessKey" .unnamed (asOptional asText) fun s businessKey =>
        { s with businessKey },
      valueField "variables" .unnamed (asOptional .ok) fun s values => { s with values }]

/-- What it takes to suspend a process definition. -/
structure Suspension where
  key : String
  includeProcessInstances : Bool

def Suspension.shape : Shape Suspension (PutValue Suspension) where
  name := "SuspendDefinition"
  start := ⟨"", false⟩
  fields :=
    [valueField "key" .refused asText fun s key => { s with key },
      valueField "includeProcessInstances" .allowed asFlag fun s includeProcessInstances =>
        { s with includeProcessInstances }]

/-- What it takes to suspend the job definitions of a process definition. -/
structure JobSuspension where
  processDefinitionKey : Option String
  processDefinitionId : Option String
  includeJobs : Bool

def JobSuspension.shape : Shape JobSuspension (PutValue JobSuspension) where
  name := "SuspendJobDefinitions"
  start := ⟨none, none, false⟩
  fields :=
    [valueField "processDefinitionKey" .unnamed (asOptional asText) fun s processDefinitionKey =>
        { s with processDefinitionKey },
      valueField "processDefinitionId" .unnamed (asOptional asText) fun s processDefinitionId =>
        { s with processDefinitionId },
      valueField "includeJobs" .allowed asFlag fun s includeJobs => { s with includeJobs }]

namespace Request

def ofDeployment (d : Deployment) : Except Mismatch Request :=
  .ok ⟨.post, ["deployment", "create"], .deployment d⟩

/-- Starting by id comes before starting by key. The body has the fields that are given. -/
def ofStart (s : Start) : Except Mismatch Request := do
  let path ←
    match s.id, s.key with
    | some id, _ => .ok ["process-definition", id, "start"]
    | none, some key => .ok ["process-definition", "key", key, "start"]
    | none, none => .error (.other "either `key` or `id` is required")
  let body := [s.businessKey.map fun key => ("businessKey", Json.str key),
    s.values.map fun values => ("variables", values)]
  return ⟨.post, path, .json (Json.object (body.filterMap id))⟩

def ofSuspension (s : Suspension) : Except Mismatch Request :=
  .ok ⟨.put, ["process-definition", "key", s.key, "suspended"], .json (Json.object
    [("suspended", .bool true), ("includeProcessInstances", .bool s.includeProcessInstances)])⟩

/-- The key of the process definition comes before its id. -/
def ofJobSuspension (s : JobSuspension) : Except Mismatch Request := do
  let selector ←
    match s.processDefinitionKey, s.processDefinitionId with
    | some key, _ => .ok ("processDefinitionKey", Json.str key)
    | none, some id => .ok ("processDefinitionId", Json.str id)
    | none, none =>
      .error (.other "either `processDefinitionKey` or `processDefinitionId` is required")
  return ⟨.put, ["job-definition", "suspended"], .json (Json.object
    [("suspended", .bool true), ("includeJobs", .bool s.includeJobs), selector])⟩

/-- The request for an action that the engine has, or `none`. -/
def ofPayload? (resource action : String) (payload : Json) : Option (Except Mismatch Request) :=
  match resource, action with
  | "deployment", "create" => some do ofDeployment (← asRecord Deployment.shape payload)
  | "process-definition", "start" => some do ofStart (← asRecord Start.shape payload)
  | "process-definition", "suspend" => some do ofSuspension (← asRecord Suspension.shape payload)
  | "job-definition", "suspend" => some do ofJobSuspension (← asRecord JobSuspension.shape payload)
  | _, _ => none

/-- Plans the request of a call. -/
def plan (resource action : String) (payload : Json) : Except Error Request :=
  match ofPayload? resource action payload with
  | none => .error (.unsupportedOperation resource action)
  | some (.ok request) => .ok request
  | some (.error m) => .error (.invalidPayload resource action m.message)

end Request
end Rehearsal
