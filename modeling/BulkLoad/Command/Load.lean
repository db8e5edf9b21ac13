import BulkLoad.Command.OptionsFile
import BulkLoad.Command.Render
import BulkLoad.Database.Basic
import BulkLoad.Insert

/-!
# The load command

Loads an input file into a table of a new database in memory and reports what was written. In the end everything is
committed and the connection is in autocommit, whatever the options say.

- `loadOptions_batchSize`: a batch size on the command line takes precedence over the options file.
-/

namespace BulkLoad

/-- What a load comes to: the totals of the insert and the number of committed rows of the table. -/
structure LoadReport where
  summary : Progress
  rows : Nat
deriving DecidableEq, Repr

/-- The options of a file. -/
def readOptions (path : String) (files : Files) : Except CommandError Options :=
  match (files path).text with
  | .error fault => .error (.configUnreadable path fault)
  | .ok s =>
    match Options.parse? s.toList with
    | none => .error (.configInvalid path)
    | some o => .ok o

namespace LoadArguments

/-- Options that the arguments take precedence over. -/
def override (a : LoadArguments) (o : Options) : Options :=
  { batchSize := a.target.batchSize.or o.batchSize
    longTransaction := a.longTransaction || o.longTransaction
    errorOnMissingRow := a.errorOnMissingRow || o.errorOnMissingRow
    concurrent := !a.sequential && o.concurrent
    commitOnClose := o.commitOnClose }

end LoadArguments

/-- The options of a load: those of the options file under those of the command line. -/
def loadOptions (a : LoadArguments) (files : Files) : Except CommandError Options :=
  match a.config with
  | none => .ok (a.override {})
  | some path => (readOptions path files).map a.override

theorem loadOptions_batchSize {a : LoadArguments} {files : Files} {o : Options} {n : Nat}
    (h : loadOptions a files = .ok o) (hn : a.target.batchSize = some n) : o.batchSize = some n := by
  unfold loadOptions at h
  split at h
  · cases h; simp [LoadArguments.override, hn]
  · cases hr : readOptions _ files with
    | error e => rw [hr] at h; cases h
    | ok p => rw [hr] at h; cases h; simp [LoadArguments.override, hn]

/-- Commits what the insert has left open. -/
def commitRest : Act Client (Except CommandError Unit) := do
  if ← Act.ask (Target.autocommit : Client → Bool) then pure (.ok ())
  else
    match ← (Target.commit : Act Client (Except DriverError Unit)) with
    | .error e => pure (.error (.committing e))
    | .ok () =>
      match ← (Target.setAutocommit true : Act Client (Except DriverError Unit)) with
      | .error e => pure (.error (.leaving e))
      | .ok () => pure (.ok ())

/-- Loads records into a new table through the client's connection. -/
def loadInto (a : LoadArguments) (columns : List ColumnSpec) (schema : Schema JsonRecord) (records : List JsonRecord)
    (o : Options) : Act Client (Except CommandError LoadReport) := do
  Act.note { level := .info, origin := .loadCommand, text := s!"loading {records.length} records with {o.describe}" }
  let t := tableOf a.target.table columns a.primaryKey
  match ← Client.run (Database.createTable t) with
  | .error e => pure (.error (.create e))
  | .ok () =>
    let n ← Client.run (Database.connect a.target.format true)
    Act.step fun c : Client => ((), { c with connection := n })
    let report ← insertAll schema o records
    match report.result with
    | .error e => pure (.error (.loading a.target.input a.target.table e))
    | .ok summary =>
      match ← commitRest with
      | .error e => pure (.error e)
      | .ok () =>
        let rows ← Act.ask fun c : Client => (c.database.count? a.target.table).getD 0
        pure (.ok ⟨summary, rows⟩)

/-- Runs the load command on a database. -/
def loadCommand (a : LoadArguments) (files : Files) : Act Client (Except CommandError LoadReport) :=
  match parseColumns a.target.columns with
  | .error e => pure (.error (.columns e))
  | .ok columns =>
    match a.target.source files with
    | .error e => pure (.error e)
    | .ok (schema, records) =>
      match loadOptions a files with
      | .error e => pure (.error e)
      | .ok o => loadInto a columns schema records o

/-- Runs the load command on a new database. -/
def load (a : LoadArguments) (files : Files) : Effect Client (Except CommandError LoadReport) :=
  loadCommand a files { database := {}, connection := 0 }

end BulkLoad
