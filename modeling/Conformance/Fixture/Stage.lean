import Conformance.Host
import Conformance.Fixture.Recipe

/-!
# The state of fixtures

All host objects of a fixture are numbered as they are made, and their states are kept in tables:
the behaviour of each function, the constructor of each class, the fields of each instance.

## Parts

* `Body`, `Construction` and `Object` are the rows of the tables, `Stage` the tables together.
* `Stage.addFunction`, `addClass` and `addInstance` make one object.
* `Recipe.make` makes a value.
-/

namespace Conformance.Fixture

/-! ## Tables -/

/-- The behaviour of a function that has been made. -/
inductive Body
  | const (value : Value)
  | echo
  | first
  | len
  | sum
  | raise (text : String)
  | fatal (text : String)
  | int
  | type
  | same
  /-- The number of calls so far, counted from where the counter starts. -/
  | counter (count : Int64)
  | apply
  /-- The method that adds integers to the field `total` of an instance. -/
  | add (self : InstanceRef)
  /-- The method that answers its instance. -/
  | me (self : InstanceRef)

/-- The constructor of a class. -/
inductive Construction
  | body (function : Nat)
  | fields (className : String) (fields : List (String × Recipe)) (traits : Traits)

/-- An instance. -/
structure Object where
  fields : Mapping
  traits : Traits

/-- Everything that has been made. -/
structure Stage where
  bodies : Array Body
  constructions : Array Construction
  objects : Array Object

/-- A world in which nothing has been made yet. -/
def emptyWorld : World Stage :=
  ⟨[], ⟨#[], #[], #[]⟩⟩

/-! ## Making one object -/

/-- The actions that make host objects. -/
abbrev StageM := StateM (World Stage)

namespace Stage

def addBody (body : Body) : StageM Nat := do
  let w ← get
  set { w with state.bodies := w.state.bodies.push body }
  pure w.state.bodies.size

def addFunction (name : String) (body : Body) : StageM FunctionRef := do
  return ⟨name, .host (← addBody body)⟩

/-- The members of classes are kept with the world, under the same number as the constructor. -/
def addClass (name : String) (members : Mapping) (construction : Construction) :
    StageM ClassRef := do
  let w ← get
  let id := w.state.constructions.size
  set { w with
    members := w.members.insert id members
    state.constructions := w.state.constructions.push construction }
  pure ⟨name, id⟩

def addInstance (className : String) (fields : Mapping) (traits : Traits) :
    StageM InstanceRef := do
  let w ← get
  set { w with state.objects := w.state.objects.push ⟨fields, traits⟩ }
  pure ⟨className, w.state.objects.size⟩

end Stage

/-! ## Making values -/

mutual

/-- Make a value and all host objects in it. -/
def Recipe.make : Recipe → StageM Value
  | .null => pure .null
  | .bool b => pure (.bool b)
  | .int i => pure (.int i)
  | .float x => pure (.float x)
  | .string s => pure (.string s)
  | .array items => return .array (← makeItems items)
  | .object entries => return .object (Assoc.ofList (← makeEntries entries))
  | .function name act => do
    return .function (← Stage.addFunction name (← act.make))
  | .cls name members maker => do
    let members := Assoc.ofList (← makeEntries members)
    match maker with
    | .act act =>
      let body ← Stage.addBody (← act.make)
      return .cls (← Stage.addClass name members (.body body))
    | .fields fields traits =>
      return .cls (← Stage.addClass name members (.fields name fields traits))
  | .inst className fields traits => do
    let fields := Assoc.ofList (← makeEntries fields)
    return .inst (← Stage.addInstance className fields traits)

def makeItems : List Recipe → StageM (List Value)
  | [] => pure []
  | item :: rest => do
    let item ← item.make
    return item :: (← makeItems rest)

def makeEntries : List (String × Recipe) → StageM (List (String × Value))
  | [] => pure []
  | (key, item) :: rest => do
    let item ← item.make
    return (key, item) :: (← makeEntries rest)

/-- Make the behaviour of a function. -/
def Act.make : Act → StageM Body
  | .const value => return .const (← value.make)
  | .echo => pure .echo
  | .first => pure .first
  | .len => pure .len
  | .sum => pure .sum
  | .raise text => pure (.raise text)
  | .fatal text => pure (.fatal text)
  | .int => pure .int
  | .type => pure .type
  | .same => pure .same
  | .counter start => pure (.counter start)
  | .apply => pure .apply

end

end Conformance.Fixture
