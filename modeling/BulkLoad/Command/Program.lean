import BulkLoad.Command.Load
import BulkLoad.Log.Filter

/-!
# The program

What the program does for a request (`execute`), apart from reading its files and printing: what it writes to its
output, what it logs, what it complains about in the end, and its exit code.

- `executeRender_exit`, `executeLoad_exit`: a command exits with 0 exactly when it succeeds, and with 2 otherwise.
-/

namespace BulkLoad

/-- What is left to do when a request has been carried out. -/
structure Finished where
  exit : Nat
  /-- The output, given the text of the time that it took. -/
  out : String → Bytes := fun _ => []
  log : List LogLine := []
  /-- What is written behind the log. -/
  complaint : Option String := none

/-- How the messages of others are worded. -/
structure Wording where
  system : FileFault → String
  json : String

/-- The text of a message. -/
def ErrorText.say (w : Wording) : ErrorText → String
  | .text s => s
  | .system fault => w.system fault
  | .json => w.json

/-- The messages of a failure in one line. -/
def CommandError.say (w : Wording) (e : CommandError) : String :=
  String.intercalate ": " (e.chain.map fun t => t.say w)

/-- A command that failed. -/
def failed (w : Wording) (command : String) (origin : Origin) (out : Bytes) (log : List LogLine) (e : CommandError) :
    Finished :=
  { exit := 2
    out := fun _ => out
    log := log ++ [{ level := .error, origin := origin, text := "[error] " ++ e.say w }]
    complaint := some ("[" ++ command ++ "] " ++ e.say w) }

/-- The report of a load as it is printed. -/
def LoadReport.print (r : LoadReport) (elapsed : String) : String :=
  s!"records: {r.summary.records}\nbatches: {r.summary.batches}\nbytes:   {r.summary.bytes}\n"
    ++ s!"rows:    {r.rows}\nelapsed: {elapsed}\n"

/-- Carries out the render command. -/
def executeRender (w : Wording) (a : TableArguments) (files : Files) : Finished :=
  let r := render a files
  match r.result with
  | .error e => failed w "render" .renderCommand r.out [] e
  | .ok n =>
    { exit := 0
      out := fun _ => r.out
      log := [{ level := .debug, origin := .renderCommand, text := s!"rendered {n} batches" }] }

/-- Carries out the load command. -/
def executeLoad (w : Wording) (a : LoadArguments) (files : Files) : Finished :=
  let r := load a files
  match r.value with
  | .error e => failed w "load" .loadCommand [] r.log e
  | .ok report => { exit := 0, out := fun elapsed => Bytes.ofString (report.print elapsed), log := r.log }

theorem executeRender_exit (w : Wording) (a : TableArguments) (files : Files) :
    (executeRender w a files).exit = if (render a files).result.toBool then 0 else 2 := by
  unfold executeRender
  simp only
  split <;> rename_i h <;> rw [h] <;> rfl

theorem executeLoad_exit (w : Wording) (a : LoadArguments) (files : Files) :
    (executeLoad w a files).exit = if (load a files).value.toBool then 0 else 2 := by
  unfold executeLoad
  simp only
  split <;> rename_i h <;> rw [h] <;> rfl

/-- What the program is for and how it is called. -/
def usage : String :=
  "Bulk loading through COPY and LOAD DATA payloads\n\nUsage: fleetload <COMMAND>\n\nCommands:\n"
    ++ "  render  Print the bulk statement and payload batches for a JSONL file\n"
    ++ "  load    Load a JSONL file into an in-memory table and report batch statistics\n"
    ++ "  help    Print this message or the help of the given subcommand(s)\n"

/-- The name and number of the version. A command has the program's name before its own. -/
def versionText : Option CommandName → String
  | none => "fleetload 0.1.0\n"
  | some c => s!"fleetload-{c.name} 0.1.0\n"

/-- Carries out a request. -/
def execute (w : Wording) (request : Request) (files : Files) : Finished :=
  match request with
  | .render a => executeRender w a files
  | .load a => executeLoad w a files
  | .help => { exit := 0, out := fun _ => Bytes.ofString usage }
  | .version c => { exit := 0, out := fun _ => Bytes.ofString (versionText c) }
  | .misuse => { exit := 2, complaint := some ("error: invalid arguments\n\n" ++ usage) }

/-- The paths of the files that a request reads. -/
def Request.paths : Request → List String
  | .render a => [a.input]
  | .load a => a.target.input :: a.config.toList
  | _ => []

/-- The log lines that a filter shows. -/
def Finished.shown (f : Finished) (filter : Log.Filter) : List LogLine := f.log.filter filter.shows

end BulkLoad
