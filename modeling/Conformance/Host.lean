import Conformance.Error
import Conformance.Text.LowerCase
import Conformance.Value.Render
import Conformance.Value.Equality

/-!
# The host

The host is the code under test: the packages that a specification may import, the extension sets
that it may ask for, and the behaviour of the functions, classes and instances among their exports.
A specification only ever holds references to host objects.  What lies behind them is in the world,
which every call may change, and a change is not undone when the call ends in an error.

## Parts

* `World` is the state of all host objects: the members of the classes, which the library keeps
  itself, and the state of everything else, which is the host's own affair.
* `HostM` is an action on the world that may end in an error.
* `Host` is the behaviour of the host objects.
* `Package.importFrom` imports by name, `Host.invoke` calls a function, and `Host.force` unwinds
  functions that hand out functions.
-/

namespace Conformance

/-! ## The world -/

/-- The state of the host objects: the members of each class, by its identity, and the host's own
state. -/
structure World (σ : Type) where
  members : Assoc Nat Mapping
  state : σ

namespace World

variable {σ : Type}

/-- The members of a class; a class that was never made has none. -/
def membersOf (w : World σ) (c : ClassRef) : Mapping :=
  (w.members.get? c.id).getD []

/-- Bind a member of a class. -/
def setClassMember (w : World σ) (c : ClassRef) (name : String) (value : Value) : World σ :=
  { w with members := w.members.insert c.id ((w.membersOf c).insert name value) }

end World

/-- An action on the world that answers or ends in an error.  The world after an error is what the
action left of it. -/
abbrev HostM (σ : Type) := EStateM Error (World σ)

namespace HostM

variable {σ α : Type}

/-- An action that cannot end in an error. -/
def ofState (action : StateM (World σ) α) : HostM σ α := fun w =>
  let (a, w) := action.run w
  .ok a w

/-- An answer that needs no world. -/
def ofExcept (answer : Except Error α) : HostM σ α := fun w =>
  match answer with
  | .ok a => .ok a w
  | .error e => .error e w

/-- The same action, with any error it ends in replaced. -/
def mapError (f : Error → Error) (action : HostM σ α) : HostM σ α := fun w =>
  match action w with
  | .ok a w => .ok a w
  | .error e w => .error (f e) w

end HostM

/-! ## The host -/

/-- A package: its name and what it exports.  Exports may be made anew at every import. -/
structure Package (σ : Type) where
  name : String
  exports : StateM (World σ) Mapping

/-- The behaviour of the code under test. -/
structure Host (σ : Type) where
  /-- The packages that can be imported, in the order of their registration. -/
  packages : List (Package σ)
  /-- The extension sets by name, each with its functions in order. -/
  extensions : Assoc String (List FunctionRef)
  /-- Call the function with the given identity. -/
  call : Nat → List Value → HostM σ Value
  /-- Construct with the class of the given identity. -/
  construct : Nat → List Value → HostM σ Value
  /-- Read a member of an instance; methods are functions, and may be made anew at every read. -/
  member : InstanceRef → String → StateM (World σ) (Option Value)
  /-- Write a member of an instance. -/
  setMember : InstanceRef → String → Value → HostM σ Unit
  /-- How the instances of a world look as data. -/
  views : World σ → Views
  /-- A bound on how many functions in a row, each handed out by the one before, a world can
  unwind. -/
  thunkDepth : World σ → Nat

/-! ## Importing -/

namespace Package

variable {σ : Type}

/-- Run the exports of the packages in order, merging them into one mapping. -/
def mergeExports : List (Package σ) → Mapping → StateM (World σ) Mapping
  | [], merged => pure merged
  | package :: rest, merged => do
    let exports ← package.exports
    mergeExports rest (merged.merge exports)

/-- What the packages whose lower-case name is the given one export together. -/
def importFrom (packages : List (Package σ)) (name : String) : HostM σ Mapping :=
  match packages.filter fun package => Text.lowerCase package.name == name with
  | [] => throw (.importFailed name)
  | found => .ofState (mergeExports found [])

/-- The import function of a scope, which takes the name of a package. -/
def importCall (packages : List (Package σ)) (args : List Value) : HostM σ Value :=
  match args.head?.bind Value.asString? with
  | some name => .object <$> importFrom packages name
  | none => throw .packageNameExpected

end Package

namespace Host

variable {σ : Type} (h : Host σ)

/-- The functions of an extension set. -/
def extension (name : String) : Except Error (List FunctionRef) :=
  match h.extensions.get? name with
  | some functions => .ok functions
  | none => .error (.unknownExtension name)

/-! ## Calling -/

/-- Call a function. -/
def invoke (f : FunctionRef) (args : List Value) : HostM σ Value :=
  match f.code with
  | .importer _ => Package.importCall h.packages args
  | .host id => h.call id args

/-- Call a function without arguments, and what it hands out as long as that is a function too. -/
def force : Nat → Value → HostM σ Value
  | depth, .function f =>
    match depth with
    | 0 => throw (.thunksTooDeep f.name)
    | depth + 1 => do force depth (← h.invoke f [])
  | _, v => pure v

/-! ## Looking at values -/

/-- The text of a value in a world. -/
def render (w : World σ) (v : Value) : String :=
  v.render (h.views w)

/-- Equality of values in a world. -/
def equal (w : World σ) (a b : Value) : Bool :=
  a.equal (h.views w) b

end Host

end Conformance
