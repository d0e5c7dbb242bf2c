import Rehearsal.Proofs.Engine.Deployment
import Rehearsal.Proofs.Json.Record

/-!
# Which payloads are planned, and as what

`Planned` is the table of the requests: a row for each way to say what is wanted, with what
the payload has to have for it. `Accepted` says the same without the requests. Planning
follows the table for every payload that is an object (`plan_decided`), whatever else is in
the object, and refuses all other payloads of an action that the engine has.
-/

namespace Rehearsal

open Text Json

/-! ### Files -/

/-- An entry has a name and exactly one content, the other one being left out or `null`: a
text, or what some bytes are written as in base64. -/
inductive Describes (entry : Json) : DeployedFile → Prop
  | text {name text : String} (hasName : entry.HasText "name" name)
      (hasText : entry.HasText "content" text) (noSymbols : entry.Lacks "contentBase64") :
      Describes entry ⟨name, Utf8.encode text.toList⟩
  | symbols {name symbols : String} {content : Bytes} (hasName : entry.HasText "name" name)
      (noText : entry.Lacks "content") (hasSymbols : entry.HasText "contentBase64" symbols)
      (written : Utf8.encode symbols.toList = Base64.encode content) :
      Describes entry ⟨name, content⟩

namespace FileEntry

def slots : List (Slot FileEntry) :=
  [.text "name" name fun e name => { e with name },
    .mayHaveText "content" .unnamed content fun e content => { e with content },
    .mayHaveText "contentBase64" .unnamed contentBase64 fun e contentBase64 =>
      { e with contentBase64 }]

theorem apart : Apart slots where
  once := by decide
  get_set := by simp [slots, Slot.text, Slot.mayHaveText]
  get_set_of_ne := by simp [slots, Slot.text, Slot.mayHaveText]
  whole := by
    rintro ⟨⟩ ⟨⟩ same
    simpa [slots, Slot.text, Slot.mayHaveText] using same

theorem asRecord_eq_ok_iff {entry : Json} (isObject : entry.IsObject) {e : FileEntry} :
    asRecord shape entry = .ok e ↔ entry.HasText "name" e.name ∧
      entry.MayHaveText "content" e.content ∧
      entry.MayHaveText "contentBase64" e.contentBase64 := by
  obtain ⟨fields, rfl, keys⟩ := isObject
  rw [asRecord, fromFields_eq_ok_iff_reads apart rfl keys]
  simp only [slots, List.forall_mem_cons, List.not_mem_nil, false_implies, implies_true,
    and_true]
  rw [Slot.reads_text, Slot.reads_mayHaveText (by decide) rfl,
    Slot.reads_mayHaveText (by decide) rfl]

end FileEntry

/-- A file is taken from an entry exactly if the entry describes it. -/
theorem DeployedFile.decode_eq_ok_iff {entry : Json} (isObject : entry.IsObject)
    {file : DeployedFile} : decode entry = .ok file ↔ Describes entry file := by
  constructor
  · intro taken
    obtain ⟨⟨name, text, symbols⟩, record, made⟩ := bind_eq_ok_iff.mp taken
    obtain ⟨hasName, content, base64⟩ := (FileEntry.asRecord_eq_ok_iff isObject).mp record
    cases text with
    | none =>
      cases symbols with
      | none => cases made
      | some symbols =>
        rw [FileEntry.file] at made
        dsimp only at made
        split at made
        next bytes decoded =>
          obtain rfl := Except.ok.inj made
          exact .symbols hasName content base64 (Base64.decode_eq_ok_iff.mp decoded)
        next => cases made
    | some text =>
      cases symbols with
      | none =>
        obtain rfl := Except.ok.inj made
        exact .text hasName content base64
      | some symbols => cases made
  · intro described
    cases described with
    | @text name text hasName hasText noSymbols =>
      have record := (FileEntry.asRecord_eq_ok_iff isObject (e := ⟨name, some text, none⟩)).mpr
        ⟨hasName, hasText, noSymbols⟩
      rw [decode, record]
      exact FileEntry.file_of_text name text
    | @symbols name symbols content hasName noText hasSymbols written =>
      have record := (FileEntry.asRecord_eq_ok_iff isObject (e := ⟨name, none, some symbols⟩)).mpr
        ⟨hasName, noText, hasSymbols⟩
      rw [decode, record]
      exact FileEntry.file_of_symbols (Base64.decode_eq_ok_iff.mpr written) name

/-! ### Records of the actions -/

namespace Deployment

def slots : List (Slot Deployment) :=
  [.text "deploymentName" name fun d name => { d with name },
    .each "files" DeployedFile.decode files fun d files => { d with files },
    .flag "enableDuplicateFiltering" enableDuplicateFiltering fun d enableDuplicateFiltering =>
      { d with enableDuplicateFiltering },
    .flag "deployChangedOnly" deployChangedOnly fun d deployChangedOnly =>
      { d with deployChangedOnly },
    .mayHaveText "tenantId" .allowed tenantId fun d tenantId => { d with tenantId }]

theorem apart : Apart slots where
  once := by decide
  get_set := by simp [slots, Slot.text, Slot.each, Slot.flag, Slot.mayHaveText]
  get_set_of_ne := by simp [slots, Slot.text, Slot.each, Slot.flag, Slot.mayHaveText]
  whole := by
    rintro ⟨⟩ ⟨⟩ same
    simpa [slots, Slot.text, Slot.each, Slot.flag, Slot.mayHaveText] using same

theorem asRecord_eq_ok_iff {payload : Json} (isObject : payload.IsObject) {d : Deployment} :
    asRecord shape payload = .ok d ↔ payload.HasText "deploymentName" d.name ∧
      payload.HasEach "files" (fun entry file => DeployedFile.decode entry = .ok file) d.files ∧
      payload.HasFlag "enableDuplicateFiltering" d.enableDuplicateFiltering ∧
      payload.HasFlag "deployChangedOnly" d.deployChangedOnly ∧
      payload.MayHaveText "tenantId" d.tenantId := by
  obtain ⟨fields, rfl, keys⟩ := isObject
  rw [asRecord, fromFields_eq_ok_iff_reads apart rfl keys]
  simp only [slots, List.forall_mem_cons, List.not_mem_nil, false_implies, implies_true, and_true]
  rw [Slot.reads_text, Slot.reads_each rfl, Slot.reads_flag rfl, Slot.reads_flag rfl,
    Slot.reads_mayHaveText (by decide) rfl]

end Deployment

namespace Start

def slots : List (Slot Start) :=
  [.mayHaveText "key" .unnamed key fun s key => { s with key },
    .mayHaveText "id" .unnamed id fun s id => { s with id },
    .mayHaveText "businessKey" .unnamed businessKey fun s businessKey => { s with businessKey },
    .mayHave "variables" values fun s values => { s with values }]

theorem apart : Apart slots where
  once := by decide
  get_set := by simp [slots, Slot.mayHaveText, Slot.mayHave]
  get_set_of_ne := by simp [slots, Slot.mayHaveText, Slot.mayHave]
  whole := by
    rintro ⟨⟩ ⟨⟩ same
    simpa [slots, Slot.mayHaveText, Slot.mayHave] using same

theorem asRecord_eq_ok_iff {payload : Json} (isObject : payload.IsObject) {s : Start} :
    asRecord shape payload = .ok s ↔ payload.MayHaveText "key" s.key ∧
      payload.MayHaveText "id" s.id ∧ payload.MayHaveText "businessKey" s.businessKey ∧
      payload.MayHave "variables" s.values := by
  obtain ⟨fields, rfl, keys⟩ := isObject
  rw [asRecord, fromFields_eq_ok_iff_reads apart rfl keys]
  simp only [slots, List.forall_mem_cons, List.not_mem_nil, false_implies, implies_true, and_true]
  rw [Slot.reads_mayHaveText (by decide) rfl, Slot.reads_mayHaveText (by decide) rfl,
    Slot.reads_mayHaveText (by decide) rfl, Slot.reads_mayHave rfl]

end Start

namespace Suspension

def slots : List (Slot Suspension) :=
  [.text "key" key fun s key => { s with key },
    .flag "includeProcessInstances" includeProcessInstances fun s includeProcessInstances =>
      { s with includeProcessInstances }]

theorem apart : Apart slots where
  once := by decide
  get_set := by simp [slots, Slot.text, Slot.flag]
  get_set_of_ne := by simp [slots, Slot.text, Slot.flag]
  whole := by
    rintro ⟨⟩ ⟨⟩ same
    simpa [slots, Slot.text, Slot.flag] using same

theorem asRecord_eq_ok_iff {payload : Json} (isObject : payload.IsObject) {s : Suspension} :
    asRecord shape payload = .ok s ↔ payload.HasText "key" s.key ∧
      payload.HasFlag "includeProcessInstances" s.includeProcessInstances := by
  obtain ⟨fields, rfl, keys⟩ := isObject
  rw [asRecord, fromFields_eq_ok_iff_reads apart rfl keys]
  simp only [slots, List.forall_mem_cons, List.not_mem_nil, false_implies, implies_true, and_true]
  rw [Slot.reads_text, Slot.reads_flag rfl]

end Suspension

namespace JobSuspension

def slots : List (Slot JobSuspension) :=
  [.mayHaveText "processDefinitionKey" .unnamed processDefinitionKey fun s processDefinitionKey =>
      { s with processDefinitionKey },
    .mayHaveText "processDefinitionId" .unnamed processDefinitionId fun s processDefinitionId =>
      { s with processDefinitionId },
    .flag "includeJobs" includeJobs fun s includeJobs => { s with includeJobs }]

theorem apart : Apart slots where
  once := by decide
  get_set := by simp [slots, Slot.mayHaveText, Slot.flag]
  get_set_of_ne := by simp [slots, Slot.mayHaveText, Slot.flag]
  whole := by
    rintro ⟨⟩ ⟨⟩ same
    simpa [slots, Slot.mayHaveText, Slot.flag] using same

theorem asRecord_eq_ok_iff {payload : Json} (isObject : payload.IsObject) {s : JobSuspension} :
    asRecord shape payload = .ok s ↔
      payload.MayHaveText "processDefinitionKey" s.processDefinitionKey ∧
      payload.MayHaveText "processDefinitionId" s.processDefinitionId ∧
      payload.HasFlag "includeJobs" s.includeJobs := by
  obtain ⟨fields, rfl, keys⟩ := isObject
  rw [asRecord, fromFields_eq_ok_iff_reads apart rfl keys]
  simp only [slots, List.forall_mem_cons, List.not_mem_nil, false_implies, implies_true, and_true]
  rw [Slot.reads_mayHaveText (by decide) rfl, Slot.reads_mayHaveText (by decide) rfl,
    Slot.reads_flag rfl]

end JobSuspension

/-! ### The table -/

namespace Request

/-- What the engine can be asked for. -/
inductive Service where
  | deployment
  | start
  | suspension
  | jobSuspension
  deriving DecidableEq

def Service.resource : Service → String
  | deployment => "deployment"
  | start => "process-definition"
  | suspension => "process-definition"
  | jobSuspension => "job-definition"

def Service.action : Service → String
  | deployment => "create"
  | start => "start"
  | suspension => "suspend"
  | jobSuspension => "suspend"

/-- The body that starts an instance: the fields that are given, and no others. -/
def startBody (businessKey : Option String) (values : Option Json) : Json :=
  Json.object ((businessKey.map fun key => ("businessKey", Json.str key)).toList ++
    (values.map fun values => ("variables", values)).toList)

/-- The table of the requests. An id comes before a key where an instance is started, and a
key before an id where jobs are suspended. -/
inductive Planned (payload : Json) : Service → Request → Prop
  | deployment {d : Deployment} (name : payload.HasText "deploymentName" d.name)
      (files : payload.HasEach "files" Describes d.files)
      (filtering : payload.HasFlag "enableDuplicateFiltering" d.enableDuplicateFiltering)
      (changedOnly : payload.HasFlag "deployChangedOnly" d.deployChangedOnly)
      (tenant : payload.MayHaveText "tenantId" d.tenantId) :
      Planned payload .deployment ⟨.post, ["deployment", "create"], .deployment d⟩
  | startById {id : String} {key businessKey : Option String} {values : Option Json}
      (hasId : payload.HasText "id" id) (mayHaveKey : payload.MayHaveText "key" key)
      (business : payload.MayHaveText "businessKey" businessKey)
      (given : payload.MayHave "variables" values) :
      Planned payload .start
        ⟨.post, ["process-definition", id, "start"], .json (startBody businessKey values)⟩
  | startByKey {key : String} {businessKey : Option String} {values : Option Json}
      (noId : payload.Lacks "id") (hasKey : payload.HasText "key" key)
      (business : payload.MayHaveText "businessKey" businessKey)
      (given : payload.MayHave "variables" values) :
      Planned payload .start
        ⟨.post, ["process-definition", "key", key, "start"],
          .json (startBody businessKey values)⟩
  | suspension {key : String} {includeProcessInstances : Bool} (hasKey : payload.HasText "key" key)
      (instances : payload.HasFlag "includeProcessInstances" includeProcessInstances) :
      Planned payload .suspension
        ⟨.put, ["process-definition", "key", key, "suspended"], .json (Json.object
          [("suspended", .bool true),
            ("includeProcessInstances", .bool includeProcessInstances)])⟩
  | jobSuspensionByKey {key : String} {id : Option String} {includeJobs : Bool}
      (hasKey : payload.HasText "processDefinitionKey" key)
      (mayHaveId : payload.MayHaveText "processDefinitionId" id)
      (jobs : payload.HasFlag "includeJobs" includeJobs) :
      Planned payload .jobSuspension
        ⟨.put, ["job-definition", "suspended"], .json (Json.object
          [("suspended", .bool true), ("includeJobs", .bool includeJobs),
            ("processDefinitionKey", .str key)])⟩
  | jobSuspensionById {id : String} {includeJobs : Bool}
      (noKey : payload.Lacks "processDefinitionKey")
      (hasId : payload.HasText "processDefinitionId" id)
      (jobs : payload.HasFlag "includeJobs" includeJobs) :
      Planned payload .jobSuspension
        ⟨.put, ["job-definition", "suspended"], .json (Json.object
          [("suspended", .bool true), ("includeJobs", .bool includeJobs),
            ("processDefinitionId", .str id)])⟩

/-- The payloads that are accepted. -/
inductive Accepted (payload : Json) : Service → Prop
  | deployment (name : ∃ name, payload.HasText "deploymentName" name)
      (files : payload.field? "files" = none ∨
        ∃ entries, payload.field? "files" = some (.arr entries) ∧
          ∀ entry ∈ entries, ∃ file, Describes entry file)
      (filtering : payload.MayBeFlag "enableDuplicateFiltering")
      (changedOnly : payload.MayBeFlag "deployChangedOnly")
      (tenant : payload.MayBeText "tenantId") : Accepted payload .deployment
  | start (key : payload.MayBeText "key") (id : payload.MayBeText "id")
      (business : payload.MayBeText "businessKey")
      (one : (∃ key, payload.HasText "key" key) ∨ ∃ id, payload.HasText "id" id) :
      Accepted payload .start
  | suspension (key : ∃ key, payload.HasText "key" key)
      (instances : payload.MayBeFlag "includeProcessInstances") :
      Accepted payload .suspension
  | jobSuspension (key : payload.MayBeText "processDefinitionKey")
      (id : payload.MayBeText "processDefinitionId")
      (one : (∃ key, payload.HasText "processDefinitionKey" key) ∨
        ∃ id, payload.HasText "processDefinitionId" id)
      (jobs : payload.MayBeFlag "includeJobs") : Accepted payload .jobSuspension

/-- What is accepted is what is planned in some way. -/
theorem exists_planned_iff {payload : Json} {service : Service} :
    (∃ request, Planned payload service request) ↔ Accepted payload service := by
  constructor
  · rintro ⟨request, planned⟩
    cases planned with
    | deployment name files filtering changedOnly tenant =>
      exact .deployment ⟨_, name⟩ ((exists_hasEach ..).mp ⟨_, files⟩) filtering.mayBe
        changedOnly.mayBe tenant.mayBe
    | startById hasId mayHaveKey business given =>
      exact .start mayHaveKey.mayBe (.inr ⟨_, hasId⟩) business.mayBe (.inr ⟨_, hasId⟩)
    | startByKey noId hasKey business given =>
      exact .start (.inr ⟨_, hasKey⟩) (.inl noId) business.mayBe (.inl ⟨_, hasKey⟩)
    | suspension hasKey instances =>
      exact .suspension ⟨_, hasKey⟩ instances.mayBe
    | jobSuspensionByKey hasKey mayHaveId jobs =>
      exact .jobSuspension (.inr ⟨_, hasKey⟩) mayHaveId.mayBe (.inl ⟨_, hasKey⟩) jobs.mayBe
    | jobSuspensionById noKey hasId jobs =>
      exact .jobSuspension (.inl noKey) (.inr ⟨_, hasId⟩) (.inr ⟨_, hasId⟩) jobs.mayBe
  · intro accepted
    cases accepted with
    | deployment name files filtering changedOnly tenant =>
      obtain ⟨name, hasName⟩ := name
      obtain ⟨files, each⟩ := (exists_hasEach ..).mpr files
      obtain ⟨filters, hasFilters⟩ := (exists_hasFlag ..).mpr filtering
      obtain ⟨changed, hasChanged⟩ := (exists_hasFlag ..).mpr changedOnly
      obtain ⟨tenant, hasTenant⟩ := (exists_mayHaveText ..).mpr tenant
      exact ⟨_, .deployment (d := ⟨name, files, filters, changed, tenant⟩) hasName each hasFilters
        hasChanged hasTenant⟩
    | start key id business one =>
      obtain ⟨businessKey, hasBusiness⟩ := (exists_mayHaveText ..).mpr business
      obtain ⟨values, given⟩ := payload.exists_mayHave "variables"
      obtain noId | ⟨id, hasId⟩ := id
      · -- one of the two is a text, and it is not the id
        obtain ⟨key, hasKey⟩ := one.resolve_right fun ⟨id, hasId⟩ => noId.not_hasText hasId
        exact ⟨_, .startByKey noId hasKey hasBusiness given⟩
      · obtain ⟨key, mayHaveKey⟩ := (exists_mayHaveText ..).mpr key
        exact ⟨_, .startById hasId mayHaveKey hasBusiness given⟩
    | suspension key instances =>
      obtain ⟨key, hasKey⟩ := key
      obtain ⟨instances, hasInstances⟩ := (exists_hasFlag ..).mpr instances
      exact ⟨_, .suspension hasKey hasInstances⟩
    | jobSuspension key id one jobs =>
      obtain ⟨jobs, hasJobs⟩ := (exists_hasFlag ..).mpr jobs
      obtain noKey | ⟨key, hasKey⟩ := key
      · obtain ⟨id, hasId⟩ := one.resolve_left fun ⟨key, hasKey⟩ => noKey.not_hasText hasKey
        exact ⟨_, .jobSuspensionById noKey hasId hasJobs⟩
      · obtain ⟨id, mayHaveId⟩ := (exists_mayHaveText ..).mpr id
        exact ⟨_, .jobSuspensionByKey hasKey mayHaveId hasJobs⟩

/-! ### Planning by the table -/

theorem startBody_eq (businessKey : Option String) (values : Option Json) :
    Json.object ([businessKey.map fun key => ("businessKey", Json.str key),
      values.map fun values => ("variables", values)].filterMap id) =
      startBody businessKey values := by
  cases businessKey <;> cases values <;> rfl

section Rows

variable {payload : Json} {request : Request} (isObject : payload.IsObject)
include isObject

theorem deployment_iff
    (entries : ∀ items, payload.field? "files" = some (.arr items) →
      ∀ entry ∈ items, entry.IsObject) :
    (asRecord Deployment.shape payload >>= ofDeployment) = .ok request ↔
      Planned payload .deployment request := by
  constructor
  · intro planned
    obtain ⟨d, record, made⟩ := bind_eq_ok_iff.mp planned
    obtain ⟨name, files, filtering, changedOnly, tenant⟩ :=
      (Deployment.asRecord_eq_ok_iff isObject).mp record
    obtain rfl := Except.ok.inj made
    -- file by file, the decoder takes what the entry describes
    refine .deployment name (files.imp ?_) filtering changedOnly tenant
    intro items field entry mem file taken
    exact (DeployedFile.decode_eq_ok_iff (entries items field entry mem)).mp taken
  · rintro (@⟨d, name, files, filtering, changedOnly, tenant⟩)
    refine bind_eq_ok_iff.mpr ⟨d, (Deployment.asRecord_eq_ok_iff isObject).mpr ?_, rfl⟩
    refine ⟨name, files.imp ?_, filtering, changedOnly, tenant⟩
    intro items field entry mem file described
    exact (DeployedFile.decode_eq_ok_iff (entries items field entry mem)).mpr described

theorem start_iff :
    (asRecord Start.shape payload >>= ofStart) = .ok request ↔ Planned payload .start request := by
  constructor
  · intro planned
    obtain ⟨⟨key, id, businessKey, values⟩, record, made⟩ := bind_eq_ok_iff.mp planned
    obtain ⟨hasKey, hasId, business, given⟩ := (Start.asRecord_eq_ok_iff isObject).mp record
    cases id with
    | some id =>
      obtain rfl := Except.ok.inj made
      rw [startBody_eq]
      exact .startById hasId hasKey business given
    | none =>
      cases key with
      | some key =>
        obtain rfl := Except.ok.inj made
        rw [startBody_eq]
        exact .startByKey hasId hasKey business given
      | none => nomatch made
  · intro planned
    cases planned with
    | @startById id key businessKey values hasId mayHaveKey business given =>
      refine bind_eq_ok_iff.mpr ⟨⟨key, some id, businessKey, values⟩, ?_, ?_⟩
      · exact (Start.asRecord_eq_ok_iff isObject).mpr ⟨mayHaveKey, hasId, business, given⟩
      · rw [← startBody_eq]
        rfl
    | @startByKey key businessKey values noId hasKey business given =>
      refine bind_eq_ok_iff.mpr ⟨⟨some key, none, businessKey, values⟩, ?_, ?_⟩
      · exact (Start.asRecord_eq_ok_iff isObject).mpr ⟨hasKey, noId, business, given⟩
      · rw [← startBody_eq]
        rfl

theorem suspension_iff :
    (asRecord Suspension.shape payload >>= ofSuspension) = .ok request ↔
      Planned payload .suspension request := by
  constructor
  · intro planned
    obtain ⟨s, record, made⟩ := bind_eq_ok_iff.mp planned
    obtain ⟨hasKey, instances⟩ := (Suspension.asRecord_eq_ok_iff isObject).mp record
    obtain rfl := Except.ok.inj made
    exact .suspension hasKey instances
  · intro planned
    cases planned with
    | @suspension key instances hasKey hasInstances =>
      refine bind_eq_ok_iff.mpr ⟨⟨key, instances⟩, ?_, rfl⟩
      exact (Suspension.asRecord_eq_ok_iff isObject).mpr ⟨hasKey, hasInstances⟩

theorem jobSuspension_iff :
    (asRecord JobSuspension.shape payload >>= ofJobSuspension) = .ok request ↔
      Planned payload .jobSuspension request := by
  constructor
  · intro planned
    obtain ⟨⟨key, id, includeJobs⟩, record, made⟩ := bind_eq_ok_iff.mp planned
    obtain ⟨hasKey, hasId, jobs⟩ := (JobSuspension.asRecord_eq_ok_iff isObject).mp record
    cases key with
    | some key =>
      obtain rfl := Except.ok.inj made
      exact .jobSuspensionByKey hasKey hasId jobs
    | none =>
      cases id with
      | some id =>
        obtain rfl := Except.ok.inj made
        exact .jobSuspensionById hasKey hasId jobs
      | none => nomatch made
  · intro planned
    cases planned with
    | @jobSuspensionByKey key id includeJobs hasKey mayHaveId jobs =>
      refine bind_eq_ok_iff.mpr ⟨⟨some key, id, includeJobs⟩, ?_, rfl⟩
      exact (JobSuspension.asRecord_eq_ok_iff isObject).mpr ⟨hasKey, mayHaveId, jobs⟩
    | @jobSuspensionById id includeJobs noKey hasId jobs =>
      refine bind_eq_ok_iff.mpr ⟨⟨none, some id, includeJobs⟩, ?_, rfl⟩
      exact (JobSuspension.asRecord_eq_ok_iff isObject).mpr ⟨noKey, hasId, jobs⟩

end Rows

/-- How the request of a service is made from a payload. -/
def Service.make (payload : Json) : Service → Except Mismatch Request
  | deployment => asRecord Deployment.shape payload >>= ofDeployment
  | start => asRecord Start.shape payload >>= ofStart
  | suspension => asRecord Suspension.shape payload >>= ofSuspension
  | jobSuspension => asRecord JobSuspension.shape payload >>= ofJobSuspension

theorem Service.ofPayload?_eq (service : Service) (payload : Json) :
    ofPayload? service.resource service.action payload = some (service.make payload) := by
  cases service <;> rfl

/-- A service is there, or there is no request. -/
theorem service_or_none (resource action : String) (payload : Json) :
    (∃ service : Service, service.resource = resource ∧ service.action = action) ∨
      ofPayload? resource action payload = none := by
  unfold ofPayload?
  split
  · exact .inl ⟨.deployment, rfl, rfl⟩
  · exact .inl ⟨.start, rfl, rfl⟩
  · exact .inl ⟨.suspension, rfl, rfl⟩
  · exact .inl ⟨.jobSuspension, rfl, rfl⟩
  · exact .inr rfl

theorem Service.make_eq_ok_iff {service : Service} {payload : Json} {request : Request}
    (isObject : payload.IsObject)
    (entries : service = .deployment → ∀ items, payload.field? "files" = some (.arr items) →
      ∀ entry ∈ items, entry.IsObject) :
    service.make payload = .ok request ↔ Planned payload service request := by
  cases service with
  | deployment => exact deployment_iff isObject (entries rfl)
  | start => exact start_iff isObject
  | suspension => exact suspension_iff isObject
  | jobSuspension => exact jobSuspension_iff isObject

section Plan

variable {service : Service} {payload : Json}

theorem Service.plan_of_made {request : Request} (made : service.make payload = .ok request) :
    plan service.resource service.action payload = .ok request := by
  rw [plan, service.ofPayload?_eq, made]

/-- A payload of which no request is made is told to be invalid. -/
theorem Service.plan_of_refused {m : Mismatch} (refused : service.make payload = .error m) :
    plan service.resource service.action payload =
      .error (.invalidPayload service.resource service.action m.message) := by
  rw [plan, service.ofPayload?_eq, refused]

theorem Service.plan_eq_ok_iff {request : Request} :
    plan service.resource service.action payload = .ok request ↔
      service.make payload = .ok request := by
  cases made : service.make payload with
  | error m =>
    rw [plan_of_refused made]
    exact iff_of_false nofun nofun
  | ok r => rw [plan_of_made made, Except.ok.injEq, Except.ok.injEq]

/-- What has no request is told to be invalid. -/
theorem Service.exists_error_of_unplanned (service : Service)
    (unplanned : ¬ ∃ request, plan service.resource service.action payload = .ok request) :
    ∃ m, plan service.resource service.action payload =
      .error (.invalidPayload service.resource service.action m) := by
  cases made : service.make payload with
  | error m => exact ⟨m.message, plan_of_refused made⟩
  | ok request => exact absurd ⟨request, plan_of_made made⟩ unplanned

theorem Service.plan_ne_unsupported (service : Service) (payload : Json)
    (resource action : String) : plan service.resource service.action payload ≠
      .error (.unsupportedOperation resource action) := by
  cases made : service.make payload with
  | error m =>
    rw [plan_of_refused made]
    nofun
  | ok r =>
    rw [plan_of_made made]
    nofun

end Plan

/-- Planning follows the table, for all payloads that are objects. What is not a service has
no request; a service has the requests of the table for what is accepted, and for nothing
else, of which it says that the payload is invalid. -/
theorem plan_decided {payload : Json} (isObject : payload.IsObject) :
    (∀ resource action, plan resource action payload =
        .error (.unsupportedOperation resource action) ↔
      ¬ ∃ service : Service, service.resource = resource ∧ service.action = action) ∧
    ∀ service : Service, (service = .deployment →
        ∀ items, payload.field? "files" = some (.arr items) → ∀ entry ∈ items, entry.IsObject) →
      (∀ request, plan service.resource service.action payload = .ok request ↔
        Planned payload service request) ∧
      ((∃ request, plan service.resource service.action payload = .ok request) ↔
        Accepted payload service) ∧
      (¬ Accepted payload service → ∃ m, plan service.resource service.action payload =
        .error (.invalidPayload service.resource service.action m)) := by
  constructor
  · intro resource action
    obtain ⟨service, rfl, rfl⟩ | none := service_or_none resource action payload
    · refine iff_of_false (service.plan_ne_unsupported payload _ _) ?_
      intro unknown
      exact unknown ⟨service, rfl, rfl⟩
    · refine iff_of_true ?_ ?_
      · rw [plan, none]
      · rintro ⟨service, rfl, rfl⟩
        rw [service.ofPayload?_eq] at none
        cases none
  · intro service entries
    have follows : ∀ request, plan service.resource service.action payload = .ok request ↔
        Planned payload service request := by
      intro request
      rw [Service.plan_eq_ok_iff, Service.make_eq_ok_iff isObject entries]
    have accepts : (∃ request, plan service.resource service.action payload = .ok request) ↔
        Accepted payload service := by
      simp only [follows]
      exact exists_planned_iff
    refine ⟨follows, accepts, ?_⟩
    intro refused
    cases made : service.make payload with
    | error m => exact ⟨m.message, Service.plan_of_refused made⟩
    | ok request => exact absurd (accepts.mp ⟨request, Service.plan_of_made made⟩) refused

/-- Files of both kinds, with a content that is `null`, next to a field that no record has. -/
theorem plan_of_mixed_files :
    let payload : Json := .obj [("deployChangedOnly", .bool true), ("deploymentName", .str "d"),
      ("files", .arr [
        .obj [("content", .str "a"), ("contentBase64", .null), ("name", .str "x")],
        .obj [("contentBase64", .str "/w=="), ("name", .str "y")]]),
      ("mystery", .int 1), ("tenantId", .null)]
    (payload.IsObject ∧ ∀ items, payload.field? "files" = some (.arr items) →
        ∀ entry ∈ items, entry.IsObject) ∧
      plan "deployment" "create" payload = .ok ⟨.post, ["deployment", "create"],
        .deployment ⟨"d", [⟨"x", [0x61]⟩, ⟨"y", [0xff]⟩], false, true, none⟩⟩ ∧
      plan "deployment" "start" payload = .error (.unsupportedOperation "deployment" "start") := by
  intro payload
  have isObject : payload.IsObject := ⟨_, rfl, by decide⟩
  have entries : ∀ items, payload.field? "files" = some (.arr items) →
      ∀ entry ∈ items, entry.IsObject := by
    intro items field
    obtain rfl := Json.arr.inj (Option.some.inj field)
    rw [List.forall_mem_cons, List.forall_mem_singleton]
    exact ⟨⟨_, rfl, by decide⟩, ⟨_, rfl, by decide⟩⟩
  have first : Describes (.obj [("content", .str "a"), ("contentBase64", .null),
      ("name", .str "x")]) ⟨"x", [0x61]⟩ :=
    @Describes.text _ "x" "a" rfl rfl (.inr rfl)
  have second : Describes (.obj [("contentBase64", .str "/w=="), ("name", .str "y")])
      ⟨"y", [0xff]⟩ :=
    @Describes.symbols _ "y" "/w==" [0xff] rfl (.inl rfl) rfl (by decide)
  have other : ¬ ∃ service : Service, service.resource = "deployment" ∧
      service.action = "start" := by
    rintro ⟨⟨⟩, resource, action⟩
    · exact absurd action (by decide)
    all_goals exact absurd resource (by decide)
  obtain ⟨unknown, known⟩ := plan_decided isObject
  obtain ⟨follows, -, -⟩ := known .deployment fun _ => entries
  refine ⟨⟨isObject, entries⟩, (follows _).mpr ?_, (unknown _ _).mpr other⟩
  exact .deployment rfl (.inl ⟨_, rfl, .cons first (.cons second .nil)⟩) (.inr ⟨rfl, rfl⟩)
    (.inl rfl) (.inr rfl)

end Request
end Rehearsal
