import Rehearsal.Engine.Request
import Rehearsal.Text.Percent

/-!
# Forms of several parts

A deployment is sent as a form: one part for each setting, then one for each
file. The parts stand between lines with a boundary that occurs in none of
them.
-/

namespace Rehearsal

open Text

/-- A part of a form. -/
structure FormPart where
  name : String
  fileName : Option String
  content : Bytes
  deriving DecidableEq

namespace FormPart

/-- Characters that are encoded in the name of a part. -/
def reserved : List Char :=
  [' ', '"', '<', '>', '\x60', '#', '?', '\x7b', '\x7d', '/', '%']

/-- The name of a part as a parameter. A name that needs encoding is marked as encoded,
unless nothing but one encoded byte is left of it. -/
def nameParameter (name : String) : List Char :=
  let encoded := Percent.encode reserved name.toList
  let isSingle := name.toList.length = 1 && encoded.length ≤ 3
  if encoded == name.toList || isSingle then "name=\"".toList ++ encoded ++ ['"']
  else "name*=utf-8''".toList ++ encoded

/-- A character of a file name. Quotes, backslashes and line ends get a backslash. -/
def fileNameChar (c : Char) : List Char :=
  if c == '\\' || c == '"' || c == '\r' || c == '\n' then ['\\', c] else [c]

/-- The name of a file as a parameter. -/
def fileNameParameter (name : String) : List Char :=
  "filename=\"".toList ++ name.toList.flatMap fileNameChar ++ ['"']

/-- The line that describes a part. -/
def header (part : FormPart) : List Char :=
  let file := part.fileName.elim [] fun name => ';' :: ' ' :: fileNameParameter name
  "Content-Disposition: form-data; ".toList ++ nameParameter part.name ++ file

end FormPart

/-- The end of a line. -/
def lineEnd : List Char := ['\r', '\n']

/-- The parts of a form, between lines with a boundary. -/
def formBody (boundary : String) (parts : List FormPart) : Bytes :=
  let one (part : FormPart) : Bytes :=
    Utf8.encode ('-' :: '-' :: boundary.toList ++ lineEnd ++ part.header ++ lineEnd ++ lineEnd) ++
      part.content ++ Utf8.encode lineEnd
  parts.flatMap one ++ Utf8.encode ('-' :: '-' :: boundary.toList ++ '-' :: '-' :: lineEnd)

namespace Deployment

/-- A setting as a part. -/
def setting (name value : String) : FormPart := ⟨name, none, Utf8.encode value.toList⟩

/-- A setting that is only sent when it is on. -/
def switch (name : String) (on : Bool) : List FormPart :=
  if on then [setting name "true"] else []

/-- A deployment as a form. -/
def form (d : Deployment) : List FormPart :=
  [setting "deployment-name" d.name] ++
    switch "enable-duplicate-filtering" d.enableDuplicateFiltering ++
    switch "deploy-changed-only" d.deployChangedOnly ++
    (d.tenantId.elim [] fun tenant => [setting "tenant-id" tenant]) ++
    d.files.map fun f => ⟨f.name, some f.name, f.content⟩

end Deployment
end Rehearsal
