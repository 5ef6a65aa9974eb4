import Conformance.CommandLine.Program

/-!
# The command line program

The program on a real disk: the questions of `FileSystem` are put to the operating system, and the
`Conclusion` goes to standard output, to standard error and into the exit status.
-/

namespace Conformance

/-- An answer of the operating system, where a refusal is kept as its text. -/
def attempt {α : Type} (action : IO α) : IO (Except String α) := do
  try return .ok (← action)
  catch e => return .error (toString e)

/-- The disk, read from the working directory. -/
def disk : FileSystem IO where
  kind? path := do
    match ← attempt do (← IO.FS.realPath path).metadata with
    | .ok found =>
      match found.type with
      | .file => return some .file
      | .dir => return some .directory
      | _ => return none
    | .error _ => return none
  entries path := attempt do
    return (← (← IO.FS.realPath path).readDir).toList.map (·.fileName)
  read path := attempt (IO.FS.readBinFile path)

end Conformance

open Conformance

def main (arguments : List String) : IO UInt32 := do
  let conclusion ← conclude disk arguments
  let out ← IO.getStdout
  out.putStr conclusion.output
  out.flush
  if let some text := conclusion.complaint then
    IO.eprintln text
  return conclusion.status
