import Conformance.Feature.Parse
import Conformance.Specification.Basic
import Conformance.Value.OfNode
import Conformance.Yaml.Stream

/-!
# Loading specifications

A specification is a stream of documents.  The first one is the sequence of its features.  The
second one, if there is one, is a mapping that names the extension sets to hook in, for each runtime
under its tag.  Further documents are read and not used.  A specification whose leading comment is
meant for other runtimes is left out without an error.

## Parts

* `parseEntries` reads the features, and `packageName?` the leading comment.
* `listedHooks` finds the extension sets for a runtime, and `hookScope` makes the scope.
* `Specification.ofNodes` loads from the content of documents, `Specification.load` from a text.
-/

namespace Conformance

open Yaml (Node)

/-! ## Features -/

/-- Read the entries one by one; the first one that cannot be read ends it. -/
def parseEntries (runtime : String) (entries : List Node) : Except Error (List Feature) :=
  entries.mapM fun entry => Feature.parse .none runtime (.ofNode entry)

/-- The name of the package: the text of the leading comment, or nothing if that is skipped. -/
def packageName? : List Feature → Except Error (Option String)
  | .comment c :: _ => .ok (if c.skip then none else some c.text)
  | _ => .error .noPackageComment

/-! ## Hooks -/

/-- The name of an extension set inside a list of names, where local tags do not count. -/
def listedName (name : Node) : Except Error String :=
  match name.untagged.asString? with
  | some name => .ok name
  | none => .error .extensionNamesNotStrings

/-- The extension sets that a hook document names for a runtime: one by its name, or several in a
sequence. -/
def hookNames (runtime : String) : Node → Except Error (List String)
  | .null => .ok []
  | .mapping entries =>
    match Node.findValue (fun key => key.asString? == some runtime) entries with
    | none => .ok []
    | some (.string name) => .ok [name]
    | some (.sequence names) => names.mapM listedName
    | some _ => .error .extensionNamesNotStrings
  | _ => .error .hooksNotMapping

/-- The extension sets that the documents behind the first one name; only the next one counts. -/
def listedHooks (runtime : String) : List Node → Except Error (List String)
  | [] => .ok []
  | hooks :: _ => hookNames runtime hooks

/-- Hook extension sets into a scope, in order. -/
def hookScope {σ : Type} (h : Host σ) : List String → Scope → Except Error Scope
  | [], s => .ok s
  | name :: rest, s => do
    hookScope h rest (s.addHooks (← h.extension name))

/-! ## Specifications -/

namespace Specification

variable {σ : Type} (h : Host σ) (runtime : String)

/-- Load from the content of the documents.  The serial number is that of the new scope. -/
def ofNodes (serial : Nat) : List Node → Except Error (Option Specification)
  | [] => .ok none
  | .sequence entries :: others => do
    let features := inheritSkip false (← parseEntries runtime entries)
    match ← packageName? features with
    | none => return none
    | some package =>
      let names ← listedHooks runtime others
      let scope ← hookScope h names (.new serial)
      return some ⟨package, features, scope, .count features⟩
  | _ => .error .notASequence

/-- Load from a text.  All documents are read before anything else is looked at. -/
def load (serial : Nat) (text : String) : Except Error (Option Specification) :=
  match Yaml.nodes text with
  | .ok nodes => ofNodes h runtime serial nodes
  | .error fault => .error (.yaml fault)

/-- Load texts in order, leaving out what is meant for other runtimes.  The first error is the
error of all. -/
def loadAll : (serial : Nat) → List String → Except Error (List Specification)
  | _, [] => .ok []
  | serial, text :: rest => do
    let spec ← load h runtime serial text
    let specs ← loadAll (serial + 1) rest
    return spec.toList ++ specs

end Specification

end Conformance
