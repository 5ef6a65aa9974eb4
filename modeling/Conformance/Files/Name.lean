import Conformance.Text.Blank

/-!
# File names

A path leads through directories, one part between slashes at a time, to the name of a file.  What
a file is for can be told from its name alone: the extension behind the last dot says whether it
holds YAML, and the stem before it says whether it is the specification of a whole package.

## Parts

* `FileName.ofPath?` finds the name at the end of a path.
* `FileName.isYaml` and `FileName.isPackage` are the two tests.
* `joinPath` is the path of a name in a directory.
-/

namespace Conformance

/-- The name of a file, divided at its last dot.  A dot at the very start divides nothing, so a
hidden file may have no extension at all; a dot at the very end leaves an empty one. -/
structure FileName where
  stem : String
  extension : Option String
deriving DecidableEq

namespace FileName

/-- Divide a name at its last dot. -/
def ofName (name : List Char) : FileName :=
  match name.reverse.span (· ≠ '.') with
  | (after, _ :: before) =>
    if before.isEmpty then ⟨String.ofList name, none⟩
    else ⟨String.ofList before.reverse, some (String.ofList after.reverse)⟩
  | (_, []) => ⟨String.ofList name, none⟩

/-- The name at the end of a path.  Slashes behind it and parts that stay in place do not count, and
a path that ends with a step up has no name. -/
def ofPath? (path : String) : Option FileName :=
  let parts := (Text.pieces '/' path.toList).filter fun part => part ≠ [] ∧ part ≠ ['.']
  match parts.getLast? with
  | none => none
  | some name => if name = ['.', '.'] then none else some (ofName name)

/-- Whether the file is read as YAML.  Upper-case extensions do not count. -/
def isYaml (name : FileName) : Bool :=
  name.extension == some "yml" || name.extension == some "yaml"

/-- Whether the file describes the package of the directory that it is in, whatever its
extension. -/
def isPackage (name : FileName) : Bool :=
  name.stem == "package"

end FileName

/-- The path of a name in a directory. -/
def joinPath (directory name : String) : String :=
  if directory.toList.getLast? = some '/' then directory ++ name else directory ++ "/" ++ name

end Conformance
