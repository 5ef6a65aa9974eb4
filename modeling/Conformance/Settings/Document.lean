import Conformance.Error
import Conformance.Settings.Basic
import Conformance.Yaml.Node.Scalar
import Conformance.Yaml.Stream

/-!
# Settings from documents

Settings are written as a mapping with the keys `runtime_tag` and `exit_first`, either of which may
be left out.  The runtime tag is the text of its scalar as it is written, whatever that would mean
elsewhere.  Exit-first has to be a boolean.  An empty document sets nothing.

## Parts

* `runtimeTagOf?` and `exitFirstOf?` read the two settings.
* `Settings.ofEntries` reads a mapping, `Settings.ofDocument` a document and `Settings.ofText` a
  text.
-/

namespace Conformance.Settings

open Yaml

/-- The text of a scalar. -/
def runtimeTagOf? : Tree → Option String
  | .scalar _ _ text => some text
  | _ => none

/-- The boolean of a plain scalar, or of a literal one with the tag of booleans. -/
def exitFirstOf? : Tree → Option Bool
  | .scalar _ .plain text => boolWord? text
  | .scalar p .literal text =>
    if p.tag.map tagRole = some (.deciding .bool) then boolWord? text else none
  | _ => none

/-- What is set so far. -/
structure Partial where
  runtimeTag : Option String
  exitFirst : Option Bool

/-- The part of the document that is meant: an alias stands for its anchored part. -/
def resolve (slots : List (Nat × Tree)) : Tree → Option Tree
  | .alias slot => Document.part? slots slot
  | part => some part

/-- Set one setting, which must not be set already. -/
def addEntry (slots : List (Nat × Tree)) (s : Partial) (key value : Tree) :
    Except Fault Partial := do
  match (resolve slots key).bind runtimeTagOf? with
  | some "runtime_tag" =>
    if s.runtimeTag.isSome then throw (.repeatedSetting "runtime_tag")
    match (resolve slots value).bind runtimeTagOf? with
    | some tag => return { s with runtimeTag := some tag }
    | none => throw .unsuitableSetting
  | some "exit_first" =>
    if s.exitFirst.isSome then throw (.repeatedSetting "exit_first")
    match (resolve slots value).bind exitFirstOf? with
    | some flag => return { s with exitFirst := some flag }
    | none => throw .unsuitableSetting
  | some name => throw (.unknownSetting name)
  | none => throw .unsuitableSetting

/-- Set the entries of a mapping in order. -/
def ofEntries (slots : List (Nat × Tree)) : List (Tree × Tree) → Partial → Except Fault Partial
  | [], s => .ok s
  | (key, value) :: rest, s => do
    ofEntries slots rest (← addEntry slots s key value)

/-- The settings of a document: of a mapping, or of nothing at all. -/
def ofDocument (d : Document) : Except Fault Settings := do
  let slots := d.slots
  match d.root with
  | none => return default
  | some (.mapping _ entries) =>
    let s ← ofEntries slots entries ⟨none, none⟩
    return ⟨s.runtimeTag.getD default.runtimeTag, s.exitFirst.getD default.exitFirst⟩
  | some (.scalar _ .plain "") => return default
  | some _ => throw .unsuitableSetting

/-- The settings in a text. -/
def ofText (text : String) : Except Error Settings :=
  match onlyDocument text >>= ofDocument with
  | .ok settings => .ok settings
  | .error fault => .error (.yaml fault)

end Conformance.Settings
