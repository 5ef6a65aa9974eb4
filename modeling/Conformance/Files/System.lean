import Conformance.Error
import Conformance.Files.Name

/-!
# File systems

Looking for specifications asks three questions of a file system, all of them about paths: what a
path leads to, which names a directory lists, and which bytes a file holds.  The answers come in a
monad, so that the same search runs on a disk and on a tree in memory.

## Parts

* `FileSystem` are the three questions.
* `FileSystem.text` reads a file as text.
* `FileSystem.sortedFiles` lists the regular files of a directory in the order of their names, which
  does not depend on the order in which the directory lists them.
-/

namespace Conformance

/-- What a path leads to, if it is of any use here. -/
inductive FileKind
  | file
  | directory
deriving DecidableEq

/-- Reading access to files. -/
structure FileSystem (m : Type → Type) where
  /-- What a path leads to; nothing if it leads nowhere, or to something else than these two. -/
  kind? : String → m (Option FileKind)
  /-- The names in a directory, in any order, or the reason why they cannot be listed. -/
  entries : String → m (Except String (List String))
  /-- The content of a file, or the reason why it cannot be read. -/
  read : String → m (Except String ByteArray)

/-- An action on files that may end in an error. -/
abbrev FilesM (m : Type → Type) := ExceptT Error m

namespace FileSystem

variable {m : Type → Type} [Monad m] (fs : FileSystem m)

/-- An answer of the file system, where a refusal is an error. -/
def orError {α : Type} (answer : m (Except String α)) : FilesM m α := do
  match ← answer with
  | .ok a => pure a
  | .error reason => throw (.io reason)

/-- The text of a file, which has to be UTF-8. -/
def text (path : String) : FilesM m String := do
  match String.fromUTF8? (← orError (fs.read path)) with
  | some text => pure text
  | none => throw (.io "stream did not contain valid UTF-8")

def isFile (path : String) : m Bool := do
  return (← fs.kind? path) == some .file

/-- The names in a list that belong to regular files of a directory. -/
def regularFiles (directory : String) : List String → m (List String)
  | [] => pure []
  | name :: rest => do
    let keep ← fs.isFile (joinPath directory name)
    let rest ← regularFiles directory rest
    return if keep then name :: rest else rest

/-- The paths of the regular files of a directory whose names are wanted, in ascending order of the
names. -/
def sortedFiles (directory : String) (wanted : String → Bool) : FilesM m (List String) := do
  let names ← fs.regularFiles directory (← orError (fs.entries directory))
  return ((names.filter wanted).mergeSort (· ≤ ·)).map (joinPath directory)

end FileSystem

end Conformance
