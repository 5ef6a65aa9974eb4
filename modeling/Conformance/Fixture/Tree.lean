import Conformance.Assoc
import Conformance.Files.System

/-!
# File trees

A tree of files and directories in memory, which stands in for a disk.  Its root is the working
directory, and there is nothing outside of it.

## Parts

* `FileTree` is the tree; `FileTree.put` places a file or a directory in it and `FileTree.build`
  makes a tree from a list of placements.
* `FileTree.walk` follows the parts of a path.
* `FileTree.system` answers the questions of a `FileSystem`.
-/

namespace Conformance.Fixture

/-- A file with its content, or a directory with its entries in the order of their creation. -/
inductive FileTree
  | file (content : ByteArray)
  | directory (entries : List (String × FileTree))

namespace FileTree

/-! ## Building -/

/-- A directory without entries. -/
def empty : FileTree :=
  .directory []

def entries : FileTree → Assoc String FileTree
  | .file _ => []
  | .directory entries => entries

/-- Place a file, making the directories that lead to it; or make a directory where there is
none. -/
def put (content : Option ByteArray) : FileTree → List String → FileTree
  | here, [] =>
    match content with
    | some bytes => .file bytes
    | none => .directory here.entries
  | here, part :: rest =>
    let child := (here.entries.get? part).getD empty
    .directory (here.entries.insert part (put content child rest))

/-- The parts of a path between its slashes, empty ones included. -/
def parts (path : String) : List String :=
  (Text.pieces '/' path.toList).map String.ofList

/-- The names that a path leads through, without the parts that stay in place. -/
def names (path : String) : List String :=
  (parts path).filter fun part => part ≠ "" ∧ part ≠ "."

/-- The tree after the placements of a list, each with its path; a placement without content makes
a directory. -/
def build (placements : List (String × Option ByteArray)) : FileTree :=
  placements.foldl (fun tree (path, content) => put content tree (names path)) empty

/-! ## Walking -/

/-- Follow the parts of a path from a place whose ancestors are given, nearest first.  Every part
needs a directory to start from, one that stays in place too. -/
def walk : List FileTree → FileTree → List String → Option FileTree
  | _, here, [] => some here
  | _, .file _, _ :: _ => none
  | ancestors, .directory entries, part :: rest =>
    let here := FileTree.directory entries
    if part = "" ∨ part = "." then walk ancestors here rest
    else if part = ".." then
      match ancestors with
      | [] => none
      | parent :: further => walk further parent rest
    else
      match Assoc.get? entries part with
      | none => none
      | some child => walk (here :: ancestors) child rest

/-- What a path leads to.  The empty path and a path that starts outside lead nowhere. -/
def find (tree : FileTree) (path : String) : Option FileTree :=
  match parts path with
  | [] | "" :: _ => none
  | part :: rest => walk [] tree (part :: rest)

/-! ## Answering -/

def kind : FileTree → FileKind
  | .file _ => .file
  | .directory _ => .directory

/-- The tree as a file system. -/
def system (tree : FileTree) : FileSystem Id where
  kind? path := (tree.find path).map kind
  entries path :=
    match tree.find path with
    | some (.directory entries) => .ok (entries.map Prod.fst)
    | some (.file _) => .error "not a directory"
    | none => .error "no such file or directory"
  read path :=
    match tree.find path with
    | some (.file content) => .ok content
    | some (.directory _) => .error "is a directory"
    | none => .error "no such file or directory"

end FileTree

end Conformance.Fixture
