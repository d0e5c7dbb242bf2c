import Rehearsal.Files
import Rehearsal.Text.Split

/-!
# Trees of files

A file system given by its entries. A path is walked name by name: `.` and
empty names stay, `..` goes up, and every other name has to be there. Names
after a file cannot be walked, not even an empty one.
-/

namespace Rehearsal

open Text

/-- Files and folders under their paths, which are lists of names from the root. The
folders above an entry are there without an entry of their own. Relative paths start at
`here`. -/
structure Tree where
  entries : List (List String × Node)
  here : List String := []

namespace Tree

/-- What stands at a list of names. Of entries with one path the last one counts. -/
def at? (tree : Tree) (names : List String) : Option Node :=
  match tree.entries.reverse.find? fun entry => entry.1 == names with
  | some entry => some entry.2
  | none =>
    if names.isEmpty || tree.entries.any fun entry => names.isPrefixOf entry.1 then some .folder
    else none

/-- A name takes at most this many bytes. -/
def maxName : Nat := 255

/-- A path takes at most this many bytes. -/
def maxPath : Nat := 4095

/-- Walks names from a folder, or a file at the end. -/
def walk (tree : Tree) : (place : List String) → Node → List String → Except FileFault Node
  | _, node, [] => .ok node
  | _, .file _, _ :: _ => .error .notFolder
  | place, .folder, name :: names =>
    if name = "" || name = "." then walk tree place .folder names
    else if name = ".." then walk tree place.dropLast .folder names
    else if maxName < Utf8.length name.toList then .error .nameTooLong
    else
      match tree.at? (place ++ [name]) with
      | some node => walk tree (place ++ [name]) node names
      | none => .error .notFound

/-- The names of a path, between its slashes. -/
def names (path : String) : List String :=
  (splitAt (fun c => c == '/') path.toList).map String.ofList

/-- What a path leads to. The empty path leads nowhere. -/
def node (tree : Tree) (path : String) : Except FileFault Node :=
  if path.toList.contains '\x00' then .error .zeroInPath
  else if path.isEmpty then .error .notFound
  else if maxPath < Utf8.length path.toList then .error .nameTooLong
  else tree.walk (if path.startsWith "/" then [] else tree.here) .folder (names path)

/-- The tree as a file system. -/
def files (tree : Tree) : Files := ⟨tree.node⟩

end Tree
end Rehearsal
