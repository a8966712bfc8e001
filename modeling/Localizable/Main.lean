import Localizable.CommandLine

/-!
# The program

Reads the files that a command line names and hands them, with the standard input,
to the command line. The output goes to the standard output and reports of errors
to the standard error.
-/

namespace Localizable.CommandLine

/-- What can be read, or else a complaint in front of the reason that the system gives. -/
def readOr (complaint : String) (bytes : IO ByteArray) : IO (Option ByteArray) := do
  try return some (← bytes)
  catch error =>
    (← IO.getStderr).putStrLn (complaint ++ toString error)
    return none

/-- The paths that a request reads, with what is said if they cannot be read. -/
def Request.files (request : Request) : List (String × String) :=
  let source := match request.source with
    | .file path => [(path, "Failed to read " ++ path ++ ": ")]
    | _ => []
  let glossary := match request.task with
    | .format settings => settings.glossary.toList.map fun path => (path, "failed to read '" ++ path ++ "': ")
    | _ => []
  source ++ glossary

/-- The inputs that a command line asks for, and no others. -/
def gatherInputs (arguments : List String) : IO Inputs := do
  match Request.read arguments with
  | .error _ => return ⟨none, fun _ => none⟩
  | .ok request =>
    let standardInput ← match request.source with
      | .standardInput => readOr "Failed to read stdin: " do (← IO.getStdin).readBinToEnd
      | _ => pure none
    let files ← request.files.mapM fun (path, complaint) => return (path, ← readOr complaint (IO.FS.readBinFile path))
    return ⟨standardInput, fun path => (files.lookup path).bind id⟩

end Localizable.CommandLine

open Localizable.CommandLine

def main (arguments : List String) : IO UInt32 := do
  let _ : Localizable.Host := .none
  let result := outcome arguments (← gatherInputs arguments)
  (← IO.getStdout).putStr result.output
  match result.report with
  | some report => (← IO.getStderr).putStrLn report.text
  | none => pure ()
  return UInt32.ofNat result.status.code
