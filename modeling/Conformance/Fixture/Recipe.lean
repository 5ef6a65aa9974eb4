import Conformance.Value.Basic

/-!
# Recipes for fixtures

A fixture is a host that is described by data instead of code: packages whose functions, classes and
instances each follow one of a few fixed behaviours.  It stands in for the code under test wherever
a specification is tried out on its own.  A recipe describes a value before it is made; making a
recipe twice gives two distinct sets of host objects.

## Parts

* `Traits` says how the instances of a class behave.
* `Recipe` describes a value, `Act` the behaviour of a function and `Maker` that of a constructor.
-/

namespace Conformance.Fixture

/-- How instances behave: whether they show their fields as data, whether they have methods beside
their fields, and whether they are sealed, which forbids writing and hides the data. -/
structure Traits where
  plain : Bool
  methods : Bool
  sealed : Bool
deriving DecidableEq

mutual

/-- A value before it is made. -/
inductive Recipe
  | null
  | bool (b : Bool)
  | int (i : Int64)
  | float (x : Binary64)
  | string (s : String)
  | array (items : List Recipe)
  | object (entries : List (String × Recipe))
  | function (name : String) (act : Act)
  | cls (name : String) (members : List (String × Recipe)) (maker : Maker)
  | inst (className : String) (fields : List (String × Recipe)) (traits : Traits)

/-- What a function does with its arguments. -/
inductive Act
  /-- Answer always the same value. -/
  | const (value : Recipe)
  /-- Answer the arguments as a sequence. -/
  | echo
  /-- Answer the first argument. -/
  | first
  /-- Answer the number of arguments. -/
  | len
  /-- Add up the integers among the arguments. -/
  | sum
  /-- Raise an exception. -/
  | raise (text : String)
  /-- End the run. -/
  | fatal (text : String)
  /-- Answer the first argument, which has to be an integer. -/
  | int
  /-- Answer the kind of the first argument. -/
  | type
  /-- Compare the first two arguments. -/
  | same
  /-- Count the calls. -/
  | counter (start : Int64)
  /-- Call or construct with the first argument and the others as its arguments. -/
  | apply

/-- What a class constructs: what a function answers, or an instance with fields made anew. -/
inductive Maker
  | act (act : Act)
  | fields (fields : List (String × Recipe)) (traits : Traits)

end

instance : Inhabited Recipe := ⟨.null⟩

instance : Inhabited Act := ⟨.echo⟩

end Conformance.Fixture
