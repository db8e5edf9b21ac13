import BulkLoad.Calendar.Unix
import BulkLoad.Command.Program
import BulkLoad.Log.Duration
import Std.Time.DateTime.Timestamp

/-!
# The command line program

Reads the files of a request, carries it out and prints what it comes to. The log goes to the error output, filtered
as the environment says.
-/

open BulkLoad

/-- What is at a path. What can be opened and then not be read is a folder. -/
def readPath (path : String) : IO FileState := do
  match ← (IO.FS.Handle.mk path .read).toBaseIO with
  | .error _ => pure .missing
  | .ok handle =>
    match ← handle.readBinToEnd.toBaseIO with
    | .error _ => pure .folder
    | .ok content => pure (.file content.data.toList)

/-- What is at the paths of a request. -/
def readPaths (paths : List String) : IO (List (String × FileState)) :=
  paths.mapM fun path => do pure (path, ← readPath path)

/-- The words of the system about a file that cannot be read. -/
def systemText : FileFault → String
  | .missing => "No such file or directory (os error 2)"
  | .folder => "Is a directory (os error 21)"
  | .notText => "stream did not contain valid UTF-8"

/-- The time of day with milliseconds, for the log. -/
def timeStamp : IO String := do
  let now ← Std.Time.Timestamp.now
  let nanos := (now.toNanosecondsSinceUnixEpoch.toInt).toNat
  let seconds := nanos / 1000000000
  let whole := (Calendar.ofSeconds? seconds 0).elim "" fun t => String.ofList t.text
  let millis := paddedDigits 3 (nanos % 1000000000 / 1000000)
  pure (whole ++ "." ++ String.ofList millis)

/-- Prints what a request comes to and answers the exit code. -/
def printFinished (f : Finished) (filter : Log.Filter) (elapsed : String) : IO UInt32 := do
  let out ← IO.getStdout
  let err ← IO.getStderr
  out.write ⟨(f.out elapsed).toArray⟩
  out.flush
  for line in f.shown filter do
    err.putStrLn ((← timeStamp) ++ " " ++ line.render elapsed)
  for text in f.complaint do
    err.putStrLn text
  pure f.exit.toUInt32

/-- Runs the program with its arguments. -/
def main (args : List String) : IO UInt32 := do
  let filter := ((← IO.getEnv "FLEETLOAD_LOG_LEVEL").map Log.Filter.parse).getD {}
  let request := Arguments.parse args
  let contents ← readPaths request.paths
  let files : Files := fun path => (contents.lookup path).getD .missing
  let start ← IO.monoNanosNow
  let wording : Wording := ⟨systemText, "invalid JSON"⟩
  let finished ← IO.lazyPure fun _ => execute wording request files
  let stop ← IO.monoNanosNow
  printFinished finished filter (durationText (stop - start))
