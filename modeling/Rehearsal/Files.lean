import Rehearsal.Error
import Rehearsal.Text.Utf8

/-!
# Files

A file system as far as this library looks at it: what each path leads to.
Files are only ever read, so it is a function and does not change.
-/

namespace Rehearsal

open Text

/-- What stands at a path. -/
inductive Node where
  | file (content : Bytes)
  | folder
  deriving DecidableEq

/-- What each path leads to. -/
structure Files where
  node : (path : String) → Except FileFault Node

namespace Files

/-- The file system in which there is nothing. -/
def empty : Files := ⟨fun _ => .error .notFound⟩

/-- Where `upper` has nothing, what `lower` has. -/
def orElse (upper lower : Files) : Files where
  node path :=
    match upper.node path with
    | .ok node => .ok node
    | .error _ => lower.node path

/-- Tells whether a path leads to a file. -/
def isFile (files : Files) (path : String) : Bool :=
  match files.node path with
  | .ok (.file _) => true
  | _ => false

/-- The content of a file. -/
def read (files : Files) (path : String) : Except FileFault Bytes := do
  match ← files.node path with
  | .file content => .ok content
  | .folder => .error .isFolder

/-- The content of a file as text. -/
def readText (files : Files) (path : String) : Except FileFault String := do
  match Utf8.decode? (← files.read path) with
  | some text => .ok (String.ofList text)
  | none => .error .notText

end Files
end Rehearsal
