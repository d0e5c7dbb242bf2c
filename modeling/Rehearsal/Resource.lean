import Rehearsal.Base64
import Rehearsal.Files
import Rehearsal.Json.Value

/-!
# Fixture files

Scenarios name the files that they deploy, and a folder says where these are.
In the payload of a call a file stands as text where its bytes are UTF-8, and
in base64 otherwise, so that every byte arrives.
-/

namespace Rehearsal

open Text

/-- The path of a name inside a folder. A name that begins with a slash stands for
itself. -/
def joinPath (root name : String) : String :=
  if name.startsWith "/" || root.isEmpty then name
  else if root.endsWith "/" then root ++ name
  else root ++ "/" ++ name

/-- A folder of named files. -/
structure ResourceFolder where
  root : String
  deriving DecidableEq

namespace ResourceFolder

/-- Where the file of a name is expected. -/
def pathOf (folder : ResourceFolder) (name : String) : String := joinPath folder.root name

/-- The content of the file of a name, byte for byte. -/
def read (folder : ResourceFolder) (files : Files) (name : String) : Except Error Bytes :=
  if files.isFile (folder.pathOf name) then
    (files.read (folder.pathOf name)).mapError .file
  else .error (.resourceNotFound name (folder.pathOf name))

end ResourceFolder

/-- A file as an entry of a deployment payload. -/
def filePayload (name : String) (content : Bytes) : Json :=
  match Utf8.decode? content with
  | some text => Json.object [("name", .str name), ("content", .str (String.ofList text))]
  | none =>
    let symbols := (Base64.encode content).map fun b => Char.ofNat b.toNat
    Json.object [("name", .str name), ("contentBase64", .str (String.ofList symbols))]

end Rehearsal
