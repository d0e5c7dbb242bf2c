import Rehearsal.Engine.Request
import Rehearsal.Proofs.Base64
import Rehearsal.Proofs.Json.Decode
import Rehearsal.Resource

/-!
# Deployments

Files are put into the payload of a deployment in one place and taken out of it in
another. Either a file goes as a text or, if it is none, in base64; whichever way it
goes, the planned request has its content byte for byte, and the files keep their order.
-/

namespace Rehearsal

open Text Json

/-- A file that is a text, as an entry of a payload. -/
theorem filePayload_of_text {name : String} {content : Bytes} {text : List Char}
    (read : Utf8.decode? content = some text) :
    filePayload name content = .obj [("content", .str (.ofList text)), ("name", .str name)] := by
  rw [filePayload, read]
  exact object_of_lt (by decide) _ _

/-- A file that is no text, as an entry of a payload. -/
theorem filePayload_of_bytes {name : String} {content : Bytes}
    (unread : Utf8.decode? content = none) :
    filePayload name content =
      .obj [("contentBase64", .str (.ofList ((Base64.encode content).map fun b =>
        Char.ofNat b.toNat))), ("name", .str name)] := by
  rw [filePayload, unread]
  exact object_of_lt (by decide) _ _

namespace FileEntry

/-- A text is the content by its bytes. -/
theorem file_of_text (name text : String) :
    file ⟨name, some text, none⟩ = .ok ⟨name, Utf8.encode text.toList⟩ := rfl

/-- Symbols are the content by the bytes they stand for. -/
theorem file_of_symbols {symbols : String} {content : Bytes}
    (decoded : Base64.decode (Utf8.encode symbols.toList) = .ok content) (name : String) :
    file ⟨name, none, some symbols⟩ = .ok ⟨name, content⟩ := by
  rw [file]
  simp only [decoded]

end FileEntry

/-- An entry is taken for the file that it was made of. -/
theorem decode_filePayload (name : String) (content : Bytes) :
    DeployedFile.decode (filePayload name content) = .ok ⟨name, content⟩ := by
  cases read : Utf8.decode? content with
  | some text =>
    have written : Utf8.encode text = content := Utf8.decode?_eq_some_iff.mp read
    rw [filePayload_of_text read]
    change FileEntry.file ⟨name, some (.ofList text), none⟩ = _
    rw [FileEntry.file_of_text, String.toList_ofList, written]
  | none =>
    have decoded := Base64.decode_encode content
    rw [← Base64.encode_symbols] at decoded
    rw [filePayload_of_bytes read]
    change FileEntry.file ⟨name, none, some (.ofList _)⟩ = _
    exact FileEntry.file_of_symbols (by rwa [String.toList_ofList]) name

/-- An entry has the name, and one of the two contents: the text if the bytes are one. -/
theorem field?_filePayload (name : String) (content : Bytes) :
    (filePayload name content).field? "name" = some (.str name) ∧
      (((filePayload name content).field? "content").isSome ↔
        ByteArray.IsValidUTF8 content.toByteArray) ∧
      (((filePayload name content).field? "contentBase64").isSome ↔
        ¬ ByteArray.IsValidUTF8 content.toByteArray) := by
  rw [← Utf8.isSome_decode?]
  cases read : Utf8.decode? content with
  | some text =>
    rw [filePayload_of_text read]
    simp [Json.field?, Table.get?]
  | none =>
    rw [filePayload_of_bytes read]
    simp [Json.field?, Table.get?]

/-- The payload that deploys files. -/
def deploymentPayload (name : String) (files : List DeployedFile) : Json :=
  Json.object [("deploymentName", .str name),
    ("files", .arr (files.map fun file => filePayload file.name file.content))]

/-- A payload of a name and files is taken for a deployment of these alone. -/
theorem asRecord_deployment {entries : List Json} {files : List DeployedFile}
    (decoded : asList DeployedFile.decode (.arr entries) = .ok files) (name : String) :
    asRecord Deployment.shape (.obj [("deploymentName", .str name), ("files", .arr entries)]) =
      .ok ⟨name, files, false, false, none⟩ := by
  have name_put : putField Deployment.shape Deployment.shape.start
      ("deploymentName", .str name) = .ok ⟨name, [], false, false, none⟩ := rfl
  have files_put : putField Deployment.shape ⟨name, [], false, false, none⟩
      ("files", .arr entries) = .ok ⟨name, files, false, false, none⟩ :=
    put_valueField decoded "files" .allowed (fun (d : Deployment) files => { d with files }) _
  exact fromFields_eq_ok_iff.mpr ⟨.cons name_put (.cons files_put (.nil _)), rfl⟩

theorem deploymentPayload_eq (name : String) (files : List DeployedFile) :
    deploymentPayload name files = .obj [("deploymentName", .str name),
      ("files", .arr (files.map fun file => filePayload file.name file.content))] :=
  object_of_gt (by decide) _ _

/-- The payload of files is planned as their deployment, byte for byte and in order. An
entry has one of the two contents, the text if there is one. -/
theorem plan_deployment (name : String) (files : List DeployedFile) :
    Request.plan "deployment" "create" (deploymentPayload name files) =
        .ok ⟨.post, ["deployment", "create"], .deployment ⟨name, files, false, false, none⟩⟩ ∧
      ∀ file ∈ files,
        (filePayload file.name file.content).field? "name" = some (.str file.name) ∧
        (((filePayload file.name file.content).field? "content").isSome ↔
          ByteArray.IsValidUTF8 file.content.toByteArray) ∧
        (((filePayload file.name file.content).field? "contentBase64").isSome ↔
          ¬ ByteArray.IsValidUTF8 file.content.toByteArray) := by
  have entries : asList DeployedFile.decode
      (.arr (files.map fun file => filePayload file.name file.content)) = .ok (files.map id) :=
    asList_map (fun file => decode_filePayload file.name file.content) files
  rw [List.map_id] at entries
  constructor
  · rw [deploymentPayload_eq, Request.plan, Request.ofPayload?]
    simp only [asRecord_deployment entries name]
    rfl
  · intro file _
    exact field?_filePayload file.name file.content

end Rehearsal
