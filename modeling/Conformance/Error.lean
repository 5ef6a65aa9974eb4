import Conformance.Yaml.Fault

/-!
# Errors

The ways in which loading or running a specification ends without an answer.  A raised error
belongs to the code under test: it is the outcome of one feature and the run goes on.  Every other
error ends the run.  An overflow of capacity is not reported to anyone: it stops the program where
it happens.

## Parts

* `Error` lists the causes and `Error.message` words them.
* `Error.isRaised` tells the errors of single features from those of the run.
* `Error.ofAssignment` is what an assignment makes of an error that it meets.
* The raised errors of the scope and the malformed inputs of the loader have a name each, from
  `Error.undefinedMember` to `Error.extensionNamesNotStrings`.
-/

namespace Conformance

/-- Why no answer was reached. -/
inductive Error
  /-- The code under test raised an exception. -/
  | raised (message : String)
  /-- A specification is not written as it should be. -/
  | parse (detail : String)
  /-- A feature has neither a target to assign to nor a property to read. -/
  | invalidFeature (left : String)
  /-- No registered package answers to the name. -/
  | importFailed (name : String)
  /-- A specification asks for hooks that nobody registered. -/
  | unknownExtension (name : String)
  /-- The target of an assignment cannot take the value. -/
  | assignment (path message : String)
  /-- A feature failed in a run that stops at the first failure. -/
  | featureFailed (text : String)
  /-- A file could not be read or a report could not be written. -/
  | io (detail : String)
  /-- A text is not YAML, or not the document that it should be. -/
  | yaml (fault : Yaml.Fault)
  /-- A sequence would have to be longer than any can be, and the program crashes. -/
  | capacityOverflow
deriving DecidableEq

namespace Error

def message : Error → String
  | raised message => message
  | parse detail => "Parse error: " ++ detail
  | invalidFeature left =>
    "Invalid feature '" ++ left ++ "': no assignable target or readable property"
  | importFailed name => "Import failed: no package named '" ++ name ++ "'"
  | unknownExtension name => "Unknown extension: " ++ name
  | assignment path message => "Cannot assign " ++ path ++ ": " ++ message
  | featureFailed text => "Feature failed: " ++ text
  | io detail => "IO error: " ++ detail
  | yaml fault => "YAML error: " ++ fault.message
  | capacityOverflow => "capacity overflow"

/-- Whether the error is the outcome of one feature and leaves the run going. -/
def isRaised : Error → Bool
  | raised _ => true
  | _ => false

/-- The error of an assignment that meets an error on its walk.  A crash stays what it is. -/
def ofAssignment (path : String) : Error → Error
  | capacityOverflow => capacityOverflow
  | e => assignment path e.message

theorem ofAssignment_of_isRaised {e : Error} (raised : e.isRaised = true) (path : String) :
    ofAssignment path e = assignment path e.message := by
  cases e <;> first | rfl | cases raised

/-- What an assignment ends in is not the outcome of a feature. -/
@[simp] theorem isRaised_ofAssignment (path : String) (e : Error) :
    (ofAssignment path e).isRaised = false := by
  cases e <;> rfl

/-! ## Raised while walking a path -/

def undefinedMember (name owner : String) : Error :=
  raised ("undefined member '" ++ name ++ "' for " ++ owner)

def invalidIndex (segment : String) : Error :=
  raised ("invalid sequence index '" ++ segment ++ "'")

def notDefined (segment : String) : Error :=
  raised ("'" ++ segment ++ "' is not defined")

def indexOutOfRange (segment : String) : Error :=
  raised ("index " ++ segment ++ " out of range")

def writeLost (function result : String) : Error :=
  raised ("'" ++ function ++ "' returns a " ++ result ++ ", the write would be lost")

def cannotSet (name owner : String) : Error :=
  raised ("cannot set '" ++ name ++ "' on " ++ owner)

def notCallable (path target : String) : Error :=
  raised (path ++ " is not callable (" ++ target ++ ")")

def packageNameExpected : Error :=
  raised "$import expects a package name"

def thunksTooDeep (function : String) : Error :=
  raised ("'" ++ function ++ "' hands out functions without end")

/-! ## Malformed specifications -/

def malformedComment (text : String) : Error :=
  parse ("malformed comment: " ++ text)

def malformedFeature (left : String) : Error :=
  parse ("malformed feature: " ++ left)

def notAFeature (rendered : String) : Error :=
  parse ("feature must be a string or a single-key mapping, got " ++ rendered)

def notASequence : Error :=
  parse "specification must be a sequence of features"

def noPackageComment : Error :=
  parse "specification must start with a package comment"

def hooksNotMapping : Error :=
  parse "hook document must be a mapping"

def extensionNamesNotStrings : Error :=
  parse "extension names must be strings"

end Error

end Conformance
