import RoadSketch.CommandLine.Answer

/-!
# The command line

Reads the files that a request names, carries out the request, and prints the answer.
-/
namespace RoadSketch

def inspectFile (name : String) : IO FileState := do
  try
    return .readable (← IO.FS.readFile name)
  catch
    | .noFileOrDirectory .. => return .missing
    | .permissionDenied .. => return .missing
    | _ => return .unreadable

/-- The states of the files that arguments name. -/
def inspectFiles (arguments : List String) : IO (String → FileState) := do
  let names := ((Request.ofArguments? arguments).map Request.files).getD []
  let states ← names.mapM fun name => return (name, ← inspectFile name)
  return fun name => (states.lookup name).getD .missing

/-- Tells why there is no answer, and returns the exit code. -/
def reportFailure : Failure → IO UInt32
  | .usage => do
    IO.eprintln "error: The arguments don't make up a command"
    return 1
  | .refused message => do
    IO.eprintln ("Error: " ++ message)
    return 1
  | .crashed fault => do
    IO.eprintln (fault.message.getD "The calculation failed")
    return 101

end RoadSketch

def main (arguments : List String) : IO UInt32 := do
  let files ← RoadSketch.inspectFiles arguments
  match RoadSketch.Answer.ofArguments files arguments with
  | .ok text =>
    IO.print text
    return 0
  | .error failure => RoadSketch.reportFailure failure
