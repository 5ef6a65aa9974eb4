import Conformance.Host
import Conformance.Scope.Path

/-!
# Scopes

The scope is the namespace that the features of one specification are resolved against.  It starts
with the import function, takes the hooks of the extension sets that the specification asks for, and
then whatever the features assign.

## Parts

* `Scope.new`, `Scope.addHooks`, `Scope.get?`, `Scope.insert` and `Scope.names` make and inspect a
  scope.
* `Host.property` reads one path segment on an owner.
* `Scope.lookup` follows a path, reading one segment after the other.
-/

namespace Conformance

/-- The namespace of one specification. -/
structure Scope where
  entries : Mapping

namespace Scope

/-- The name of the import function. -/
def importName : String :=
  "$import"

/-- What stands before the name of a hook. -/
def hookMark : String :=
  "$"

/-- A scope with nothing but its import function.  The serial number keeps the import functions of
different scopes apart. -/
def new (serial : Nat) : Scope :=
  ⟨[(importName, .function ⟨importName, .importer serial⟩)]⟩

def get? (s : Scope) (name : String) : Option Value :=
  s.entries.get? name

def insert (s : Scope) (name : String) (value : Value) : Scope :=
  ⟨s.entries.insert name value⟩

def names (s : Scope) : List String :=
  s.entries.keys

/-- Bind the functions of an extension set under their marked names, in order. -/
def addHooks (s : Scope) (functions : List FunctionRef) : Scope :=
  functions.foldl (fun s f => s.insert (hookMark ++ f.name) (.function f)) s

end Scope

/-! ## Reading -/

namespace Host

variable {σ : Type} (h : Host σ)

/-- Read one segment on an owner that is not a function.  What a mapping or a sequence does not hold
reads as null; a class or an instance without the member raises, and so does any other value. -/
def readMember (owner : Value) (segment : String) : HostM σ Value :=
  match owner with
  | .object entries => pure ((Assoc.get? entries segment).getD .null)
  | .array items => do
    let position ← HostM.ofExcept (sequenceIndex segment items.length)
    pure ((position.bind (items[·]?)).getD .null)
  | .cls c => do
    match ((← get).membersOf c).get? segment with
    | some value => pure value
    | none => throw (.undefinedMember segment owner.typeName)
  | .inst i => do
    match ← HostM.ofState (h.member i segment) with
    | some value => pure value
    | none => throw (.undefinedMember segment owner.typeName)
  | _ => throw (.undefinedMember segment owner.typeName)

/-- Read one segment on an owner.  A function is called first, and what it hands out is the
owner. -/
def property (owner : Value) (segment : String) : HostM σ Value := do
  let depth := h.thunkDepth (← get)
  h.readMember (← h.force depth owner) segment

/-- Read segments one after the other. -/
def properties (owner : Value) : List String → HostM σ Value
  | [] => pure owner
  | segment :: rest => do
    properties (← h.property owner segment) rest

end Host

/-- What a path names: an entry that is not there reads as null.  The last value is not called even
if it is a function. -/
def Scope.lookup {σ : Type} (s : Scope) (h : Host σ) (text : String) : HostM σ Value :=
  let path := Path.ofString text
  h.properties ((s.get? path.first).getD .null) path.rest

end Conformance
