import BulkLoad.Batch

/-!
# Errors of a bulk insert

What a database driver reports, how far an insert has come (`Progress`), and the ways in which an insert fails.

- `BulkError.length_chain`: a report of the database adds a second message to the first.
-/

namespace BulkLoad

/-- The kind of failure that a driver reports. -/
inductive DriverErrorKind
  | constraintViolation
  | missingReference
  | typeMismatch
  | unsupported
  | other
deriving DecidableEq, Repr

/-- A failure as the database reports it, with its own code if it has one. -/
structure DriverError where
  kind : DriverErrorKind
  code : Option String := none
  message : String
deriving DecidableEq, Repr

/-- The message behind the code. -/
def DriverError.display (e : DriverError) : String :=
  match e.code with
  | some code => s!"[{code}] {e.message}"
  | none => e.message

/-- Totals of the batches that the database has acknowledged. -/
structure Progress where
  batches : Nat := 0
  records : Nat := 0
  bytes : Nat := 0
  rowsAffected : Nat := 0
deriving DecidableEq, Repr

/-- The totals with one more batch. -/
def Progress.record (p : Progress) (b : Batch) (rows : Nat) : Progress :=
  ⟨p.batches + 1, p.records + b.records, p.bytes + b.size, p.rowsAffected + rows⟩

/-- The way in which a bulk insert fails. -/
inductive BulkError
  | schema (e : SchemaError)
  | serialization (e : SerializationError)
  | databaseWrite (batch : Nat) (progress : Progress) (source : DriverError)
  | channelAcquisition (source : DriverError)
  | channelClose (source : DriverError)
  | transaction (source : DriverError)
  | workerLost
deriving DecidableEq

namespace BulkError

/-- The wording of an insert's failure. -/
def message : BulkError → String
  | schema e => s!"invalid schema: {e.message}"
  | serialization e => e.message
  | databaseWrite batch progress source =>
    s!"database rejected batch {batch} ({progress.batches} batches written before it): {source.display}"
  | channelAcquisition source => s!"connection cannot provide a bulk-load channel: {source.display}"
  | channelClose source => s!"closing the bulk-load channel failed: {source.display}"
  | transaction source => s!"transaction control failed: {source.display}"
  | workerLost => "background writer terminated unexpectedly"

/-- The report of the database behind a failure. -/
def driver? : BulkError → Option DriverError
  | databaseWrite _ _ source => some source
  | channelAcquisition source => some source
  | channelClose source => some source
  | transaction source => some source
  | _ => none

/-- The number of batches written before a rejected one. -/
def batchesWritten? : BulkError → Option Nat
  | databaseWrite _ progress _ => some progress.batches
  | _ => none

/-- The messages of a failure and of what caused it, outermost first. -/
def chain (e : BulkError) : List String := e.message :: (e.driver?.map DriverError.display).toList

theorem length_chain (e : BulkError) : e.chain.length = if e.driver?.isSome then 2 else 1 := by
  cases e <;> rfl

end BulkError

end BulkLoad
