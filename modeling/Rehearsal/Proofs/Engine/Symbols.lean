import Rehearsal.Proofs.Base64.Bits
import Rehearsal.Proofs.Engine.Planning

/-!
# Files given by symbols

An entry of a deployment that gives its file by symbols is accepted exactly if these are the
canonical form of some bytes, wherever it stands and whatever the rest of the deployment is,
as long as the rest is in order. The bytes are then the content of the file. As they have one
canonical form only, no two texts of symbols give the same file.
-/

namespace Rehearsal

open Text Json

/-- An entry has a name, and symbols for its content. -/
structure GivenBySymbols (entry : Json) (name symbols : String) : Prop where
  isObject : entry.IsObject
  hasName : entry.HasText "name" name
  noText : entry.Lacks "content"
  hasSymbols : entry.HasText "contentBase64" symbols

namespace GivenBySymbols

variable {entry : Json} {name symbols : String} {file : DeployedFile}

/-- The file of such an entry has the name, and the bytes that the symbols are the canonical
form of. -/
theorem decode_eq_ok_iff (given : GivenBySymbols entry name symbols) :
    DeployedFile.decode entry = .ok file ↔
      file.name = name ∧ Base64.Writes file.content symbols := by
  rw [DeployedFile.decode_eq_ok_iff given.isObject]
  constructor
  · intro described
    cases described with
    | text hasName hasText noSymbols => exact absurd hasText given.noText.not_hasText
    | @symbols name' symbols' content hasName noText hasSymbols written =>
      obtain rfl := Json.str.inj (Option.some.inj (hasName.symm.trans given.hasName))
      obtain rfl := Json.str.inj (Option.some.inj (hasSymbols.symm.trans given.hasSymbols))
      exact ⟨rfl, Base64.writes_iff_encode.mpr written⟩
  · rintro ⟨rfl, writes⟩
    exact .symbols given.hasName given.noText given.hasSymbols (Base64.writes_iff_encode.mp writes)

end GivenBySymbols

/-- A deployment that is in order, but for one of its entries. -/
structure Surrounds (payload : Json) (before : List Json) (entry : Json) (after : List Json) :
    Prop where
  isObject : payload.IsObject
  name : ∃ name, payload.HasText "deploymentName" name
  files : payload.field? "files" = some (.arr (before ++ entry :: after))
  others : ∀ other ∈ before ++ after, ∃ file, DeployedFile.decode other = .ok file
  filtering : payload.MayBeFlag "enableDuplicateFiltering"
  changedOnly : payload.MayBeFlag "deployChangedOnly"
  tenant : payload.MayBeText "tenantId"

namespace Request

variable {payload entry : Json} {before after : List Json} {name symbols : String}

/-- What is planned has a file of each of its entries. -/
theorem exists_file_of_plan (surrounds : Surrounds payload before entry after)
    {request : Request} (planned : plan "deployment" "create" payload = .ok request) :
    ∃ file, DeployedFile.decode entry = .ok file := by
  have made : Service.make payload .deployment = .ok request := Service.plan_eq_ok_iff.mp planned
  obtain ⟨d, record, -⟩ := bind_eq_ok_iff.mp made
  obtain ⟨-, files, -⟩ := (Deployment.asRecord_eq_ok_iff surrounds.isObject).mp record
  obtain ⟨items, field, each⟩ | ⟨absent, -⟩ := files
  · obtain rfl := Json.arr.inj (Option.some.inj (field.symm.trans surrounds.files))
    exact exists_forall₂_iff.mp ⟨_, each⟩ entry (List.mem_append_right _ List.mem_cons_self)
  · nomatch absent.symm.trans surrounds.files

/-- The file of an entry stands in its place in what is planned. -/
theorem exists_plan_of_file (surrounds : Surrounds payload before entry after)
    {file : DeployedFile} (taken : DeployedFile.decode entry = .ok file) :
    ∃ d, plan "deployment" "create" payload =
        .ok ⟨.post, ["deployment", "create"], .deployment d⟩ ∧
      d.files[before.length]? = some file := by
  obtain ⟨name, hasName⟩ := surrounds.name
  obtain ⟨filters, hasFilters⟩ := (exists_hasFlag ..).mpr surrounds.filtering
  obtain ⟨changed, hasChanged⟩ := (exists_hasFlag ..).mpr surrounds.changedOnly
  obtain ⟨tenant, hasTenant⟩ := (exists_mayHaveText ..).mpr surrounds.tenant
  obtain ⟨front, back⟩ := List.forall_mem_append.mp surrounds.others
  obtain ⟨first, each⟩ := exists_forall₂_iff.mpr front
  obtain ⟨last, each'⟩ := exists_forall₂_iff.mpr back
  have files : payload.HasEach "files" (fun entry file => DeployedFile.decode entry = .ok file)
      (first ++ file :: last) :=
    .inl ⟨_, surrounds.files, List.rel_append each (.cons taken each')⟩
  let d : Deployment := ⟨name, first ++ file :: last, filters, changed, tenant⟩
  have record : asRecord Deployment.shape payload = .ok d :=
    (Deployment.asRecord_eq_ok_iff surrounds.isObject).mpr
      ⟨hasName, files, hasFilters, hasChanged, hasTenant⟩
  have made : Service.make payload .deployment = .ok ⟨.post, ["deployment", "create"],
      .deployment d⟩ := bind_eq_ok_iff.mpr ⟨d, record, rfl⟩
  refine ⟨d, Service.plan_of_made made, ?_⟩
  show (first ++ file :: last)[before.length]? = some file
  rw [each.length_eq, List.getElem?_append_right (Nat.le_refl _), Nat.sub_self]
  rfl

/-- What a deployment comes to hangs on whether symbols in it are the canonical form of
bytes. If they are, the file of these bytes is planned in its place, encoding the bytes gives
the symbols again, and no other symbols give this content; if they are not, the payload is
invalid. -/
theorem plan_of_symbols (surrounds : Surrounds payload before entry after)
    (given : GivenBySymbols entry name symbols) :
    ((∃ request, plan "deployment" "create" payload = .ok request) ↔
      ∃ content, Base64.Writes content symbols) ∧
    ((¬ ∃ content, Base64.Writes content symbols) → ∃ m, plan "deployment" "create" payload =
      .error (.invalidPayload "deployment" "create" m)) ∧
    (∀ content, Base64.Writes content symbols → Base64.encodedText content = symbols ∧
      ∃ d, plan "deployment" "create" payload =
          .ok ⟨.post, ["deployment", "create"], .deployment d⟩ ∧
        d.files[before.length]? = some ⟨name, content⟩) ∧
    ∀ other name' symbols', GivenBySymbols other name' symbols' → ∀ file file',
      DeployedFile.decode entry = .ok file → DeployedFile.decode other = .ok file' →
        file'.content = file.content → symbols' = symbols := by
  have accepted : (∃ request, plan "deployment" "create" payload = .ok request) ↔
      ∃ content, Base64.Writes content symbols := by
    constructor
    · rintro ⟨request, planned⟩
      obtain ⟨file, taken⟩ := exists_file_of_plan surrounds planned
      exact ⟨file.content, (given.decode_eq_ok_iff.mp taken).2⟩
    · rintro ⟨content, writes⟩
      have taken : DeployedFile.decode entry = .ok ⟨name, content⟩ :=
        given.decode_eq_ok_iff.mpr ⟨rfl, writes⟩
      obtain ⟨d, planned, -⟩ := exists_plan_of_file surrounds taken
      exact ⟨_, planned⟩
  refine ⟨accepted, ?_, ?_, ?_⟩
  · intro refused
    rw [← accepted] at refused
    exact Service.deployment.exists_error_of_unplanned refused
  · intro content writes
    refine ⟨(Base64.writes_iff.mp writes).symm, ?_⟩
    apply exists_plan_of_file surrounds
    exact given.decode_eq_ok_iff.mpr ⟨rfl, writes⟩
  · intro other name' symbols' given' file file' taken taken' same
    obtain ⟨-, writes⟩ := given.decode_eq_ok_iff.mp taken
    obtain ⟨-, writes'⟩ := given'.decode_eq_ok_iff.mp taken'
    rw [Base64.writes_iff.mp writes, Base64.writes_iff.mp writes', same]

/-- One byte, filled up, behind a file that is given by its text. -/
theorem plan_of_filled_symbols :
    let text : Json := .obj [("content", .str "a"), ("name", .str "x")]
    let entry : Json := .obj [("contentBase64", .str "/w=="), ("name", .str "y")]
    let payload : Json := .obj [("deploymentName", .str "d"), ("files", .arr [text, entry])]
    Surrounds payload [text] entry [] ∧ GivenBySymbols entry "y" "/w==" ∧
      Base64.encodedText [0xff] = "/w==" ∧
      ∃ d, plan "deployment" "create" payload =
          .ok ⟨.post, ["deployment", "create"], .deployment d⟩ ∧
        d.files[1]? = some ⟨"y", [0xff]⟩ := by
  intro text entry payload
  have surrounds : Surrounds payload [text] entry [] :=
    { isObject := ⟨_, rfl, by decide⟩
      name := ⟨"d", rfl⟩
      files := rfl
      others := by
        rw [List.append_nil, List.forall_mem_singleton]
        exact ⟨⟨"x", [0x61]⟩, rfl⟩
      filtering := .inl rfl
      changedOnly := .inl rfl
      tenant := .inl (.inl rfl) }
  have given : GivenBySymbols entry "y" "/w==" := ⟨⟨_, rfl, by decide⟩, rfl, .inl rfl, rfl⟩
  obtain ⟨-, -, planned, -⟩ := plan_of_symbols surrounds given
  have writes : Base64.Writes [0xff] "/w==" := Base64.writes_iff.mpr rfl
  exact ⟨surrounds, given, planned [0xff] writes⟩

end Request
end Rehearsal
