import BulkLoad.Buffer
import BulkLoad.Command.Arguments
import BulkLoad.Command.Error
import BulkLoad.Statement

/-!
# The render command

Writes the bulk statement for an input file and then its batches, each behind a comment line. A batch is written when it
is larger than the threshold, and the last one when it has records. A record that cannot be written ends the output
after the batches before it.
-/

namespace BulkLoad

/-- What the render command writes, and the number of batches or the failure. -/
structure Rendered where
  out : Bytes
  result : Except CommandError Nat

/-- The comment line and the lines of a batch. -/
def renderBatch (b : Batch) : Bytes :=
  Bytes.ofString s!"-- batch {b.seq}: {b.records} records, {b.size} bytes\n" ++ b.bytes

section Records

variable {ρ : Type}

/-- Writes the batches of further records, when `batches` have been written. -/
def renderFrom (threshold : Nat) (b : Buffer ρ) (batches : Nat) : List ρ → Rendered
  | [] => if b.isEmpty then ⟨[], .ok batches⟩ else ⟨renderBatch b.take.1, .ok (batches + 1)⟩
  | r :: rs =>
    match b.add r with
    | (.error e, _) => ⟨[], .error (.serialization e)⟩
    | (.ok (), b) =>
      if b.isFilled threshold then
        let rest := renderFrom threshold b.take.2 (batches + 1) rs
        { rest with out := renderBatch b.take.1 ++ rest.out }
      else renderFrom threshold b batches rs

/-- Writes the batches of records. -/
def renderRecords (s : Schema ρ) (f : Format) (threshold : Nat) (records : List ρ) : Rendered :=
  renderFrom threshold { schema := s, format := f } 0 records

end Records

/-- The batch size of the arguments, or the default of their format. -/
def TableArguments.threshold (a : TableArguments) : Nat := a.batchSize.getD a.format.defaultBatchSize

/-- The schema and the records that the arguments name. -/
def TableArguments.source (a : TableArguments) (files : Files) :
    Except CommandError (Schema JsonRecord × List JsonRecord) :=
  match parseColumns a.columns with
  | .error e => .error (.columns e)
  | .ok columns =>
    match schemaOf a.table columns with
    | .error e => .error (.schema e)
    | .ok schema =>
      match readRecords a.input (files a.input) with
      | .error e => .error (.input e)
      | .ok records => .ok (schema, records)

/-- Runs the render command. -/
def render (a : TableArguments) (files : Files) : Rendered :=
  match a.source files with
  | .error e => ⟨[], .error e⟩
  | .ok (schema, records) =>
    let r := renderRecords schema a.format a.threshold records
    { r with out := Bytes.ofString (statement a.format schema ++ ";\n") ++ r.out }

end BulkLoad
