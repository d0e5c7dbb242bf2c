import Rehearsal.Proofs.Engine.Planning
import Rehearsal.Proofs.Json.Positions

/-!
# Payloads by position

A payload need not name what it says. A list is taken as well, its values in the order of the
fields, and so is a list in the place of an entry for a file. `plan_of_positions` says of
every payload which request it has: what does not fit has none, and what fits has the request
that the table has for the same values under their names.
-/

namespace Rehearsal

open Json

/-- The three values of an entry for a file, none of which may be left out of a list. -/
def FileEntry.positions : Positions := ⟨["name", "content", "contentBase64"], 3⟩

theorem DeployedFile.decode_eq_ok_iff_named {entry : Json} {file : DeployedFile} :
    decode entry = .ok file ↔
      FileEntry.positions.Fits entry ∧ decode (FileEntry.positions.named entry) = .ok file :=
  asRecord_bind_eq_ok_iff_named FileEntry.apart rfl

/-- Whatever entries for files there are, they fit. -/
def EntriesFit (payload : Json) : Prop :=
  ∀ entries, payload.field? "files" = some (.arr entries) →
    ∀ entry ∈ entries, FileEntry.positions.Fits entry

/-- A payload with names in its entries for files. -/
def nameEntries (payload : Json) : Json :=
  payload.mapField "files" (mapItems FileEntry.positions.named)

section Entries

variable {payload : Json}

theorem field?_nameEntries (payload : Json) : (nameEntries payload).field? "files" =
    (payload.field? "files").map (mapItems FileEntry.positions.named) :=
  field?_mapField.trans (if_pos rfl)

theorem field?_nameEntries_of_ne {key : String} (other : "files" ≠ key) (payload : Json) :
    (nameEntries payload).field? key = payload.field? key :=
  field?_mapField.trans (if_neg other)

/-- The named entries are those of the payload, named. -/
theorem exists_entries_of_nameEntries {named : List Json}
    (field : (nameEntries payload).field? "files" = some (.arr named)) :
    ∃ entries, payload.field? "files" = some (.arr entries) ∧
      entries.map FileEntry.positions.named = named := by
  rw [field?_nameEntries, Option.map_eq_some_iff] at field
  obtain ⟨files, given, made⟩ := field
  obtain ⟨entries, rfl, same⟩ := mapItems_eq_arr_iff.mp made
  exact ⟨entries, given, same⟩

/-- Files are taken from entries that fit, and then from the entries with names. -/
theorem hasEach_iff_nameEntries {files : List DeployedFile} :
    payload.HasEach "files" (fun entry file => DeployedFile.decode entry = .ok file) files ↔
      EntriesFit payload ∧ (nameEntries payload).HasEach "files"
        (fun entry file => DeployedFile.decode entry = .ok file) files := by
  constructor
  · rintro (⟨entries, field, each⟩ | ⟨absent, none⟩)
    · constructor
      · intro entries' field' entry mem
        obtain rfl := Json.arr.inj (Option.some.inj (field.symm.trans field'))
        obtain ⟨file, taken⟩ := exists_forall₂_iff.mp ⟨files, each⟩ entry mem
        exact (DeployedFile.decode_eq_ok_iff_named.mp taken).1
      · refine .inl ⟨entries.map FileEntry.positions.named, ?_, ?_⟩
        · rw [field?_nameEntries, field]
          rfl
        · rw [List.forall₂_map_left_iff]
          exact each.imp fun entry file taken => (DeployedFile.decode_eq_ok_iff_named.mp taken).2
    · constructor
      · intro entries field
        nomatch absent.symm.trans field
      · exact .inr ⟨by rw [field?_nameEntries, absent, Option.map_none], none⟩
  · rintro ⟨fit, ⟨named, field, each⟩ | ⟨absent, none⟩⟩
    · obtain ⟨entries, given, rfl⟩ := exists_entries_of_nameEntries field
      refine .inl ⟨entries, given, ?_⟩
      rw [List.forall₂_map_left_iff] at each
      have both := (List.forall₂_and_left _ _).mpr ⟨fit entries given, each⟩
      exact both.imp fun entry file taken => DeployedFile.decode_eq_ok_iff_named.mpr taken
    · rw [field?_nameEntries, Option.map_eq_none_iff] at absent
      exact .inr ⟨absent, none⟩

theorem isObject_nameEntries (isObject : payload.IsObject) : (nameEntries payload).IsObject :=
  isObject.mapField

theorem Deployment.asRecord_eq_ok_iff_nameEntries (isObject : payload.IsObject)
    {d : Deployment} : asRecord shape payload = .ok d ↔
      EntriesFit payload ∧ asRecord shape (nameEntries payload) = .ok d := by
  rw [asRecord_eq_ok_iff isObject, asRecord_eq_ok_iff (isObject_nameEntries isObject),
    hasEach_iff_nameEntries, and_assoc, and_left_comm]
  -- the other fields are what they were
  simp only [HasText, HasFlag, MayHaveText, Lacks, ne_eq, String.reduceEq, not_false_eq_true,
    field?_nameEntries_of_ne]

end Entries

namespace Request

namespace Service

/-- The values that the record of a service has, and how many of them may not be left out of
a list. -/
def positions : Service → Positions
  | deployment =>
    ⟨["deploymentName", "files", "enableDuplicateFiltering", "deployChangedOnly", "tenantId"], 1⟩
  | start => ⟨["key", "id", "businessKey", "variables"], 4⟩
  | suspension => ⟨["key", "includeProcessInstances"], 1⟩
  | jobSuspension => ⟨["processDefinitionKey", "processDefinitionId", "includeJobs"], 2⟩

theorem names_nodup (service : Service) : service.positions.names.Nodup := by
  cases service <;> decide

/-- A payload with all the names. -/
def named (service : Service) (payload : Json) : Json :=
  match service with
  | deployment => nameEntries (deployment.positions.named payload)
  | _ => service.positions.named payload

/-- A payload is an object, or a list that is neither too short nor too long, and so are the
entries for files in it. -/
structure Fits (service : Service) (payload : Json) : Prop where
  whole : service.positions.Fits payload
  entries : service = .deployment → EntriesFit (service.positions.named payload)

variable {service : Service} {payload : Json} {request : Request}

theorem deployment_iff_named (keyed : payload.Keyed) :
    make payload .deployment = .ok request ↔
      Fits .deployment payload ∧ make (named .deployment payload) .deployment = .ok request := by
  have whole : make payload .deployment = .ok request ↔ deployment.positions.Fits payload ∧
      make (deployment.positions.named payload) .deployment = .ok request :=
    asRecord_bind_eq_ok_iff_named Deployment.apart rfl
  rw [whole]
  constructor
  · rintro ⟨fits, made⟩
    have isObject := fits.isObject_named (names_nodup .deployment) keyed
    obtain ⟨d, record, makes⟩ := bind_eq_ok_iff.mp made
    obtain ⟨entries, record'⟩ := (Deployment.asRecord_eq_ok_iff_nameEntries isObject).mp record
    exact ⟨⟨fits, fun _ => entries⟩, bind_eq_ok_iff.mpr ⟨d, record', makes⟩⟩
  · rintro ⟨fits, made⟩
    have isObject := fits.whole.isObject_named (names_nodup .deployment) keyed
    obtain ⟨d, record, makes⟩ := bind_eq_ok_iff.mp made
    refine ⟨fits.whole, bind_eq_ok_iff.mpr ⟨d, ?_, makes⟩⟩
    exact (Deployment.asRecord_eq_ok_iff_nameEntries isObject).mpr ⟨fits.entries rfl, record⟩

/-- A request is made of a payload exactly if it fits, and if the same request is made of it
with all the names. -/
theorem make_eq_ok_iff_named (keyed : payload.Keyed) :
    service.make payload = .ok request ↔
      service.Fits payload ∧ service.make (service.named payload) = .ok request := by
  have whole (other : service ≠ .deployment) :
      service.Fits payload ↔ service.positions.Fits payload :=
    ⟨Fits.whole, fun fits => ⟨fits, fun same => absurd same other⟩⟩
  cases service with
  | deployment => exact deployment_iff_named keyed
  | start =>
    rw [whole nofun]
    exact asRecord_bind_eq_ok_iff_named Start.apart rfl
  | suspension =>
    rw [whole nofun]
    exact asRecord_bind_eq_ok_iff_named Suspension.apart rfl
  | jobSuspension =>
    rw [whole nofun]
    exact asRecord_bind_eq_ok_iff_named JobSuspension.apart rfl

theorem Fits.isObject_named (fits : service.Fits payload) (keyed : payload.Keyed) :
    (service.named payload).IsObject := by
  have isObject := fits.whole.isObject_named service.names_nodup keyed
  cases service with
  | deployment => exact isObject_nameEntries isObject
  | _ => exact isObject

/-- With all the names, the entries for files are objects as well. -/
theorem Fits.isObject_entries (fits : service.Fits payload) (keyed : payload.Keyed)
    (deploys : service = .deployment) :
    ∀ entries, (service.named payload).field? "files" = some (.arr entries) →
      ∀ entry ∈ entries, entry.IsObject := by
  subst deploys
  intro named field entry mem
  obtain ⟨entries, given, rfl⟩ := exists_entries_of_nameEntries field
  obtain ⟨before, before_mem, rfl⟩ := List.mem_map.mp mem
  have keyedEntries : (Json.arr entries).Keyed :=
    (Positions.keyed_named (names_nodup .deployment) keyed).of_field? given
  cases keyedEntries with
  | arr each =>
    exact (fits.entries rfl entries given before before_mem).isObject_named (by decide)
      (each before before_mem)

end Service

/-- A payload has a request exactly if it fits, and if it has this request in the table with
all the names: by position or by name, the same values come to the same. What does not fit,
or is not accepted with its names, is told to be invalid. In particular nothing has a request
that is neither an object nor a list. -/
theorem plan_of_positions {payload : Json} (keyed : payload.Keyed) :
    (∀ resource action, (¬ ∃ service : Service, service.resource = resource ∧
        service.action = action) →
      plan resource action payload = .error (.unsupportedOperation resource action)) ∧
    ∀ service : Service,
      (∀ request, plan service.resource service.action payload = .ok request ↔
        service.Fits payload ∧ Planned (service.named payload) service request) ∧
      ((∃ request, plan service.resource service.action payload = .ok request) ↔
        service.Fits payload ∧ Accepted (service.named payload) service) ∧
      (¬ (service.Fits payload ∧ Accepted (service.named payload) service) →
        ∃ m, plan service.resource service.action payload =
          .error (.invalidPayload service.resource service.action m)) ∧
      ((∀ fields, payload ≠ .obj fields) → (∀ items, payload ≠ .arr items) →
        ¬ service.Fits payload) := by
  constructor
  · intro resource action unknown
    obtain known | none := service_or_none resource action payload
    · exact absurd known unknown
    · rw [plan, none]
  · intro service
    have follows : ∀ request, plan service.resource service.action payload = .ok request ↔
        service.Fits payload ∧ Planned (service.named payload) service request := by
      intro request
      rw [Service.plan_eq_ok_iff, Service.make_eq_ok_iff_named keyed]
      apply and_congr_right
      intro fits
      exact Service.make_eq_ok_iff (fits.isObject_named keyed) (fits.isObject_entries keyed)
    have accepts : (∃ request, plan service.resource service.action payload = .ok request) ↔
        service.Fits payload ∧ Accepted (service.named payload) service := by
      simp only [follows, exists_and_left, exists_planned_iff]
    refine ⟨follows, accepts, ?_, ?_⟩
    · intro refused
      rw [← accepts] at refused
      exact service.exists_error_of_unplanned refused
    · intro noObject noList fits
      cases fits.whole with
      | fields fields => exact noObject fields rfl
      | items items => exact noList items rfl

/-- A deployment that is all lists, and a list that is too short to start anything. -/
theorem plan_of_bare_lists :
    let payload : Json := .arr [.str "d", .arr [.arr [.str "x", .null, .str "/w=="]]]
    payload.Keyed ∧
      plan "deployment" "create" payload = .ok ⟨.post, ["deployment", "create"],
        .deployment ⟨"d", [⟨"x", [0xff]⟩], false, false, none⟩⟩ ∧
      ∃ m, plan "process-definition" "start" payload =
        .error (.invalidPayload "process-definition" "start" m) := by
  intro payload
  have entry : Json.Keyed (.arr [.str "x", .null, .str "/w=="]) := by
    apply Keyed.arr
    simp only [List.forall_mem_cons, List.not_mem_nil, false_implies, implies_true, and_true]
    exact ⟨.str "x", .null, .str "/w=="⟩
  have keyed : payload.Keyed := by
    apply Keyed.arr
    simp only [List.forall_mem_cons, List.not_mem_nil, false_implies, implies_true, and_true]
    refine ⟨.str "d", .arr ?_⟩
    rwa [List.forall_mem_singleton]
  have fits : Service.Fits .deployment payload := by
    constructor
    · exact Positions.fits_arr_iff.mpr (by decide)
    · intro _ entries field
      obtain rfl := Json.arr.inj (Option.some.inj field)
      rw [List.forall_mem_singleton]
      exact Positions.fits_arr_iff.mpr (by decide)
  have short : ¬ Service.Fits .start payload := by
    intro fits
    exact absurd (Positions.fits_arr_iff.mp fits.whole).1 (by decide)
  have described : Describes (FileEntry.positions.named (.arr [.str "x", .null, .str "/w=="]))
      ⟨"x", [0xff]⟩ :=
    @Describes.symbols _ "x" "/w==" [0xff] rfl (.inr rfl) rfl (by decide)
  obtain ⟨-, services⟩ := plan_of_positions keyed
  refine ⟨keyed, ?_, ?_⟩
  · apply ((services .deployment).1 _).mpr
    refine ⟨fits, .deployment rfl (.inl ⟨_, rfl, .cons described .nil⟩) (.inr ⟨rfl, rfl⟩)
      (.inr ⟨rfl, rfl⟩) (.inl rfl)⟩
  · exact (services .start).2.2.1 fun fitting => short fitting.1

/-- A key without its name, and a file without the names of its parts, are planned. -/
theorem plan_of_bare_key :
    plan "process-definition" "suspend" (.arr [.str "p"]) =
        .ok ⟨.put, ["process-definition", "key", "p", "suspended"], .json (.obj
          [("includeProcessInstances", .bool false), ("suspended", .bool true)])⟩ ∧
      plan "deployment" "create" (.obj [("deploymentName", .str "d"),
          ("files", .arr [.arr [.str "x", .str "a", .null]])]) =
        .ok ⟨.post, ["deployment", "create"],
          .deployment ⟨"d", [⟨"x", [0x61]⟩], false, false, none⟩⟩ :=
  ⟨rfl, rfl⟩

end Request
end Rehearsal
