import Conformance.Fixture.Stage

/-!
# Fixtures as hosts

How the functions, classes and instances that were made from recipes behave, and the host that a set
of packages and extension sets described by recipes amounts to.

## Parts

* `perform` runs a function of a fixture, and `construct` a constructor.
* `readField`, `writeField` and `dataView` are the behaviour of instances.
* `Fixture` is a host described by data, and `Fixture.load` makes it.
-/

namespace Conformance.Fixture

open HostM (ofState)

/-! ## Instances -/

/-- The row of an instance; one that was never made has no fields. -/
def Stage.objectOf (s : Stage) (i : InstanceRef) : Object :=
  s.objects.getD i.id ⟨[], ⟨false, false, false⟩⟩

def setField (i : InstanceRef) (name : String) (value : Value) : StageM Unit :=
  modify fun w =>
    { w with state.objects := w.state.objects.modify i.id fun object =>
        { object with fields := object.fields.insert name value } }

/-- A field, or else a method.  Methods are made anew at every read. -/
def readField (i : InstanceRef) (name : String) : StageM (Option Value) := do
  let object := (← get).state.objectOf i
  match object.fields.get? name with
  | some value => pure (some value)
  | none =>
    if object.traits.sealed || !object.traits.methods then pure none
    else if name = "add" then
      return some (.function (← Stage.addFunction name (.add i)))
    else if name = "me" then
      return some (.function (← Stage.addFunction name (.me i)))
    else pure none

/-- Names with a low line in front are private; a sealed instance takes no writes at all. -/
def writeField (i : InstanceRef) (name : String) (value : Value) : HostM Stage Unit := do
  let object := (← get).state.objectOf i
  if object.traits.sealed then
    throw (.cannotSet name (i.className ++ " instance"))
  else if name.startsWith "_" then
    throw (.raised ("'" ++ name ++ "' is private"))
  else ofState (setField i name value)

/-- The fields as a mapping, if the instance shows them. -/
def dataView (s : Stage) (i : InstanceRef) : Option Value :=
  let object := s.objectOf i
  if object.traits.plain && !object.traits.sealed then some (.object object.fields) else none

/-- The data views in a world.  Instances inside one another are all distinct, so there are no more
of them than there are instances. -/
def viewsOf (w : World Stage) : Views :=
  ⟨dataView w.state, w.state.objects.size⟩

/-- Fields in order, each replaced by the argument at its place as long as there are arguments. -/
def fillFields : Mapping → List Value → Mapping
  | (name, _) :: fields, value :: args => (name, value) :: fillFields fields args
  | fields, _ => fields

def makeInstance (className : String) (fields : List (String × Recipe)) (traits : Traits)
    (args : List Value) : StageM Value := do
  let fields := Assoc.ofList (← makeEntries fields)
  return .inst (← Stage.addInstance className (fillFields fields args) traits)

/-! ## Functions -/

/-- The sum of the integers among the values. -/
def sumInts (values : List Value) : Int64 :=
  (values.filterMap Value.asInt?).foldl (· + ·) 0

/-- Add the arguments to the field `total`, which counts as zero while it is no integer. -/
def addToTotal (self : InstanceRef) (args : List Value) : HostM Stage Value := do
  let object := (← get).state.objectOf self
  let start := ((object.fields.get? "total").bind Value.asInt?).getD 0
  if args.all (·.asInt?.isSome) then
    let total := Value.int (start + sumInts args)
    ofState (setField self "total" total)
    pure total
  else throw (.raised "add expects integers")

/-- Whether two arguments are equal, a missing one being equal to a missing one only. -/
def sameArguments (views : Views) : Option Value → Option Value → Bool
  | none, none => true
  | some a, some b => a.equal views b
  | _, _ => false

/-- Run the function with the given number.  Applying a callable takes it off the arguments, so a
chain of functions that apply one another ends with the arguments. -/
def perform (packages : List (Package Stage)) : List Value → Nat → HostM Stage Value
  | args, id => do
    let w ← get
    match w.state.bodies[id]? with
    | none => pure .null
    | some (.const value) => pure value
    | some .echo => pure (.array args)
    | some .first => pure (args.head?.getD .null)
    | some .len => pure (.int (Int64.ofNat args.length))
    | some .sum => pure (.int (sumInts args))
    | some (.raise text) => throw (.raised text)
    | some (.fatal text) => throw (.parse text)
    | some .int =>
      match args.head?.getD .null with
      | .int i => pure (.int i)
      | other => throw (.raised ("not an integer: " ++ other.render (viewsOf w)))
    | some .type => pure (.string (args.head?.getD .null).typeName)
    | some .same => pure (.bool (sameArguments (viewsOf w) args[0]? args[1]?))
    | some (.counter count) =>
      set { w with state.bodies := w.state.bodies.set! id (.counter (count + 1)) }
      pure (.int (count + 1))
    | some .apply =>
      match args with
      | .function ⟨_, .host target⟩ :: rest => perform packages rest target
      | .function ⟨_, .importer _⟩ :: rest => Package.importCall packages rest
      | .cls c :: rest =>
        match w.state.constructions[c.id]? with
        | some (.body target) => perform packages rest target
        | some (.fields className fields traits) =>
          ofState (makeInstance className fields traits rest)
        | none => pure .null
      | _ => throw (.raised "apply expects a callable")
    | some (.add self) => addToTotal self args
    | some (.me self) => pure (.inst self)

/-- Construct with the class of the given number. -/
def construct (packages : List (Package Stage)) (c : Nat) (args : List Value) :
    HostM Stage Value := do
  match (← get).state.constructions[c]? with
  | some (.body function) => perform packages args function
  | some (.fields className fields traits) => ofState (makeInstance className fields traits args)
  | none => pure .null

/-! ## Hosts from data -/

/-- Packages with their exports and extension sets with their functions, in order of
registration. -/
structure Setup where
  packages : List (String × List (String × Recipe))
  extensions : List (String × List (String × Act))

def makePackages : List (String × List (String × Recipe)) → StageM (List (Package Stage))
  | [] => pure []
  | (name, exports) :: rest => do
    let exports := Assoc.ofList (← makeEntries exports)
    return ⟨name, pure exports⟩ :: (← makePackages rest)

def makeFunctions : List (String × Act) → StageM (List FunctionRef)
  | [] => pure []
  | (name, act) :: rest => do
    let f ← Stage.addFunction name (← act.make)
    return f :: (← makeFunctions rest)

def makeExtensions :
    List (String × List (String × Act)) → StageM (List (String × List FunctionRef))
  | [] => pure []
  | (name, functions) :: rest => do
    let functions ← makeFunctions functions
    return (name, functions) :: (← makeExtensions rest)

/-- The host of a setup.  Exports are made once and shared by every import. -/
def Setup.load (setup : Setup) : StageM (Host Stage) := do
  let packages ← makePackages setup.packages
  let extensions ← makeExtensions setup.extensions
  return {
    packages := packages
    extensions := Assoc.ofList extensions
    call := fun id args => perform packages args id
    construct := fun id args => construct packages id args
    member := readField
    setMember := writeField
    views := viewsOf
    thunkDepth := fun w => w.state.bodies.size + 1 }

end Conformance.Fixture
