import Conformance.Files.System
import Conformance.Specification.Load

/-!
# Finding and loading specifications

Specifications are looked for at a path.  A file stands for itself and a directory for its files;
a path that leads nowhere holds no specifications, which is not an error.  Without a path, the
package files of the working directory are meant, and if there are none, a directory of
specifications beside them.  Whatever is found, only YAML files are read.

## Parts

* `FileSystem.filesAt` and `FileSystem.candidates` find files.
* `Specification.ofFile` loads from one file and `Specification.ofFiles` from several.
* `Specification.search` finds and loads.
-/

namespace Conformance

variable {m : Type → Type} [Monad m] (fs : FileSystem m)

namespace FileSystem

/-- The directory of specifications that is used when nothing else is given. -/
def defaultDirectory : String :=
  "packspec"

/-- The files that a path stands for. -/
def filesAt (path : String) : FilesM m (List String) := do
  match ← fs.kind? path with
  | some .file => return [path]
  | some .directory => fs.sortedFiles path fun _ => true
  | none => return []

/-- Whether a name in the working directory is that of a package file. -/
def isPackageFile (name : String) : Bool :=
  (FileName.ofPath? name).any FileName.isPackage

/-- The files to load from a path, or by default. -/
def candidates : Option String → FilesM m (List String)
  | some path => fs.filesAt path
  | none => do
    let packages ← fs.sortedFiles "." isPackageFile
    if packages.isEmpty then fs.filesAt (joinPath "." defaultDirectory) else return packages

end FileSystem

namespace Specification

variable {σ : Type} (h : Host σ) (runtime : String)

/-- Load from a file.  A file that is not YAML by its name is not even read. -/
def ofFile (serial : Nat) (path : String) : FilesM m (Option Specification) := do
  if (FileName.ofPath? path).any FileName.isYaml then
    ExceptT.mk (pure (load h runtime serial (← fs.text path)))
  else return none

/-- Load from files in order, leaving out those that hold no specification.  The first error is the
error of all. -/
def ofFiles : (serial : Nat) → List String → FilesM m (List Specification)
  | _, [] => return []
  | serial, path :: rest => do
    let spec ← ofFile fs h runtime serial path
    let specs ← ofFiles (serial + 1) rest
    return spec.toList ++ specs

/-- Load everything that is found at a path, or by default. -/
def search (path : Option String) : FilesM m (List Specification) := do
  ofFiles fs h runtime 0 (← fs.candidates path)

end Specification

end Conformance
