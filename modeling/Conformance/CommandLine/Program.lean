import Conformance.CommandLine.Arguments
import Conformance.Files.Search
import Conformance.Report.Console
import Conformance.Run.All
import Conformance.Settings.Document

/-!
# The program

Carrying out a command line takes four steps: read the settings, find the specifications, load them
all, and run them.  Nothing is reported before everything is loaded.

## Parts

* `Arguments.settings` reads the settings: a file first, then what the command line says.
* `Arguments.execute` carries out a command line with a given host and reporter.
* `Conclusion` is how the program ends, and `conclude` runs it without any host.
-/

namespace Conformance

variable {m : Type → Type} [Monad m] (fs : FileSystem m)

/-! ## Settings -/

/-- The settings in a file. -/
def Settings.ofFile (path : String) : FilesM m Settings := do
  ExceptT.mk (pure (Settings.ofText (← fs.text path)))

/-- The file of settings that is read if it is there and no other one is given. -/
def Settings.defaultFile : String :=
  "packspec.yml"

namespace Arguments

/-- The settings for a command line. -/
def settings (a : Arguments) : FilesM m Settings := do
  let base ←
    match a.config with
    | some path => Settings.ofFile fs path
    | none =>
      if ← fs.isFile Settings.defaultFile then Settings.ofFile fs Settings.defaultFile
      else pure .default
  return ⟨a.tag.getD base.runtimeTag, base.exitFirst || a.exitFirst⟩

/-! ## Executing -/

variable {σ ρ : Type} (h : Host σ)

/-- The settings and the specifications that a command line asks for. -/
def plan (a : Arguments) : FilesM m (Settings × List Specification) := do
  let settings ← a.settings fs
  let specs ← Specification.search fs h settings.runtimeTag a.path
  return (settings, specs)

/-- Carry out a command line. -/
def execute (reporter : Reporter ρ) (a : Arguments) (s : Session σ ρ) :
    m (EStateM.Result Error (Session σ ρ) Bool) := do
  match ← (a.plan fs h).run with
  | .ok (settings, specs) => return (runAll h reporter settings specs).run s
  | .error e => return .error e s

end Arguments

/-! ## Concluding -/

namespace Error

/-- The exit status of a program that an error ends: 101 after a crash, and 1 after any other. -/
def status : Error → UInt32
  | capacityOverflow => 101
  | _ => 1

/-- What is written to standard error about an error that ends the program.  A crash is announced
by the system, which adds the place in the program to the message. -/
def complaint : Error → String
  | capacityOverflow => capacityOverflow.message
  | e => "Error: " ++ e.message

end Error

/-- How the program ends, each with what was written to the console before. -/
inductive Conclusion
  | refused (usage : Usage)
  | finished (success : Bool) (console : String)
  | failed (error : Error) (console : String)

namespace Usage

/-- The answer to a command line that asks for help. -/
def helpText : String :=
  "Run packspec contract specifications\n\n" ++
  "Usage: packspec [OPTIONS] [PATH]\n\n" ++
  "Arguments:\n" ++
  "  [PATH]  Specification file or directory\n\n" ++
  "Options:\n" ++
  "      --tag <TAG>        Runtime tag used to select tagged features\n" ++
  "  -x, --exit-first       Stop at the first failing feature\n" ++
  "      --config <CONFIG>  Configuration file (defaults to packspec.yml when present)\n" ++
  "  -h, --help             Print help\n"

def message : Usage → String
  | unknownArgument argument => "error: unexpected argument '" ++ argument ++ "' found"
  | invalidValue slot => "error: a value is required for '" ++ slot.display ++ "'"
  | argumentConflict option =>
    "error: the argument '" ++ option ++ "' cannot be used multiple times"
  | tooManyValues option => "error: no value is allowed for '" ++ option ++ "'"
  | displayHelp => helpText

end Usage

namespace Conclusion

/-- The exit status: 0 after success and help, 2 for a command line that is not understood, 101
after a crash, and 1 for everything else. -/
def status : Conclusion → UInt32
  | refused .displayHelp => 0
  | refused _ => 2
  | finished success _ => if success then 0 else 1
  | failed error _ => error.status

/-- What is written to standard output. -/
def output : Conclusion → String
  | refused .displayHelp => Usage.helpText
  | refused _ => ""
  | finished _ console => console
  | failed _ console => console

/-- What is written to standard error. -/
def complaint : Conclusion → Option String
  | refused .displayHelp => none
  | refused usage => some usage.message
  | finished _ _ => none
  | failed error _ => some error.complaint

end Conclusion

/-- A host without packages and extension sets, which has no objects at all. -/
def emptyHost : Host Unit where
  packages := []
  extensions := []
  call _ _ := pure .null
  construct _ _ := pure .null
  member _ _ := pure none
  setMember _ _ _ := pure ()
  views _ := .none
  thunkDepth _ := 1

/-- Run the program. -/
def conclude (arguments : List String) : m Conclusion := do
  match Arguments.ofList arguments with
  | .error usage => return .refused usage
  | .ok a =>
    let s : Session Unit Console := ⟨.new 0, ⟨[], ()⟩, .empty⟩
    match ← a.execute fs emptyHost Console.reporter s with
    | .ok success s => return .finished success s.taken.output
    | .error e s => return .failed e s.taken.output

end Conformance
