/-!
# Command line arguments

A command line names at most one path, and sets options before or behind it.  The value of an option
is written behind an equals sign or as the next argument, which must not look like an option itself.
Single-letter flags may be joined.  A double dash ends the options.

A value that came as an argument of its own is only judged when the next option or the end is
reached.  So of two mistakes the first one is not always the one that is reported: an unknown
argument is reported at once.

## Parts

* `Arguments` is what a command line sets, and `Usage` why one is refused.
* `Word` classifies a single argument by its dashes.
* `ArgumentReader` is the state between two arguments: what is set so far, and a value that is still
  to be judged or still to come.
* `Arguments.ofList` reads a whole command line.
-/

namespace Conformance

/-- What a command line sets. -/
structure Arguments where
  /-- The file or directory of specifications. -/
  path : Option String
  /-- The runtime tag. -/
  tag : Option String
  /-- Whether to stop at the first failing feature. -/
  exitFirst : Bool
  /-- The file of settings. -/
  config : Option String
deriving DecidableEq

/-- The parts of a command line that have a value. -/
inductive Slot
  | path
  | tag
  | config
deriving DecidableEq

/-- Options without a value. -/
inductive Flag
  | exitFirst
  | help
deriving DecidableEq

/-- Why a command line is not carried out. -/
inductive Usage
  /-- There is no such option, or no place for a further path. -/
  | unknownArgument (argument : String)
  /-- The value of an option is missing, or it is empty where a path is needed. -/
  | invalidValue (slot : Slot)
  /-- An option is given twice. -/
  | argumentConflict (option : String)
  /-- A value is given to a flag. -/
  | tooManyValues (option : String)
  /-- Help is asked for. -/
  | displayHelp
deriving DecidableEq

namespace Slot

/-- How the slot is written in messages. -/
def display : Slot → String
  | path => "[PATH]"
  | tag => "--tag <TAG>"
  | config => "--config <CONFIG>"

/-- The option with a value of the given name. -/
def named? : String → Option Slot
  | "tag" => some tag
  | "config" => some config
  | _ => none

end Slot

namespace Flag

def display : Flag → String
  | exitFirst => "--exit-first"
  | help => "--help"

/-- The flag of the given name. -/
def named? : String → Option Flag
  | "exit-first" => some exitFirst
  | "help" => some help
  | _ => none

/-- The flag of the given letter. -/
def lettered? : Char → Option Flag
  | 'x' => some exitFirst
  | 'h' => some help
  | _ => none

end Flag

/-! ## Setting -/

namespace Arguments

/-- The command line that sets nothing. -/
def empty : Arguments :=
  ⟨none, none, false, none⟩

/-- Give a slot its value.  Only the runtime tag may be empty. -/
def set (slot : Slot) (value : String) (a : Arguments) : Except Usage Arguments :=
  match slot with
  | .path =>
    if value.isEmpty then throw (.invalidValue .path) else pure { a with path := some value }
  | .tag =>
    if a.tag.isSome then throw (.argumentConflict slot.display)
    else pure { a with tag := some value }
  | .config =>
    if a.config.isSome then throw (.argumentConflict slot.display)
    else if value.isEmpty then throw (.invalidValue .config)
    else pure { a with config := some value }

/-- Raise a flag. -/
def raise (flag : Flag) (a : Arguments) : Except Usage Arguments :=
  match flag with
  | .help => throw .displayHelp
  | .exitFirst =>
    if a.exitFirst then throw (.argumentConflict flag.display)
    else pure { a with exitFirst := true }

end Arguments

/-! ## Words -/

/-- An argument by the dashes in front of it. -/
inductive Word
  /-- A double dash alone. -/
  | endOfOptions
  /-- An option by its name, with what stands behind its first equals sign. -/
  | long (name : String) (value : Option String)
  /-- Flags by their letters. -/
  | short (letters : List Char)
  /-- Anything else; a dash alone is also a value. -/
  | value
deriving DecidableEq

def Word.ofList : List Char → Word
  | ['-', '-'] => .endOfOptions
  | '-' :: '-' :: text =>
    match text.span (· ≠ '=') with
    | (name, []) => .long (String.ofList name) none
    | (name, _ :: behind) => .long (String.ofList name) (some (String.ofList behind))
  | '-' :: letter :: letters => .short (letter :: letters)
  | _ => .value

/-! ## Reading -/

/-- A slot whose value is not judged yet, or has not come yet. -/
structure Pending where
  slot : Slot
  value : Option String
deriving DecidableEq

/-- The state between two arguments. -/
structure ArgumentReader where
  arguments : Arguments
  pending : Option Pending
deriving DecidableEq

namespace ArgumentReader

def start : ArgumentReader :=
  ⟨.empty, none⟩

/-- Judge the pending value, which has to be there by now. -/
def settle (r : ArgumentReader) : Except Usage ArgumentReader :=
  match r.pending with
  | none => pure r
  | some ⟨slot, none⟩ => throw (.invalidValue slot)
  | some ⟨slot, some value⟩ => return ⟨← r.arguments.set slot value, none⟩

def raise (flag : Flag) (r : ArgumentReader) : Except Usage ArgumentReader := do
  let r ← r.settle
  return ⟨← r.arguments.raise flag, none⟩

/-- Raise flags by their letters. -/
def readLetters (argument : String) :
    List Char → ArgumentReader → Except Usage ArgumentReader
  | [], r => pure r
  | letter :: rest, r =>
    match Flag.lettered? letter with
    | some flag => do readLetters argument rest (← r.raise flag)
    | none => throw (.unknownArgument argument)

/-- Read an option by its name. -/
def readLong (argument name : String) (value : Option String) (r : ArgumentReader) :
    Except Usage ArgumentReader := do
  match Slot.named? name, Flag.named? name, value with
  | some slot, _, some value =>
    let r ← r.settle
    return ⟨← r.arguments.set slot value, none⟩
  | some slot, _, none =>
    let r ← r.settle
    return ⟨r.arguments, some ⟨slot, none⟩⟩
  | none, some flag, none => r.raise flag
  | none, some flag, some _ => throw (.tooManyValues flag.display)
  | none, none, _ => throw (.unknownArgument argument)

/-- Whether the path is given, judged or not. -/
def hasPath (r : ArgumentReader) : Bool :=
  r.arguments.path.isSome || r.pending.any (·.slot == .path)

/-- Read an argument as the path. -/
def readPath (argument : String) (r : ArgumentReader) : Except Usage ArgumentReader := do
  if r.hasPath then throw (.unknownArgument argument)
  let r ← r.settle
  return ⟨r.arguments, some ⟨.path, some argument⟩⟩

/-- Read an argument that does not look like an option. -/
def readValue (argument : String) (r : ArgumentReader) : Except Usage ArgumentReader :=
  match r.pending with
  | some ⟨slot, none⟩ => pure ⟨r.arguments, some ⟨slot, some argument⟩⟩
  | _ => r.readPath argument

/-- Read the arguments behind a double dash. -/
def readPaths : List String → ArgumentReader → Except Usage ArgumentReader
  | [], r => r.settle
  | argument :: rest, r => do readPaths rest (← r.readPath argument)

/-- Read arguments up to the end. -/
def read : List String → ArgumentReader → Except Usage ArgumentReader
  | [], r => r.settle
  | argument :: rest, r =>
    match Word.ofList argument.toList with
    | .endOfOptions => readPaths rest r
    | .long name value => do read rest (← r.readLong argument name value)
    | .short letters => do read rest (← r.readLetters argument letters)
    | .value => do read rest (← r.readValue argument)

end ArgumentReader

/-- What a command line sets, given its arguments without the name of the program. -/
def Arguments.ofList (arguments : List String) : Except Usage Arguments := do
  return (← ArgumentReader.start.read arguments).arguments

end Conformance
