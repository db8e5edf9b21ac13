import BulkLoad.Format

/-!
# Insert options

- `Options.effectiveBatchSize_of_some`: a batch size that is given holds for both formats.
-/

namespace BulkLoad

/-- The options of a bulk insert. -/
structure Options where
  /-- The size in bytes above which a batch is sent; the default of the format when there is none. -/
  batchSize : Option Nat := none
  /-- Run the whole insert in one transaction, instead of one for each batch. -/
  longTransaction : Bool := false
  /-- Take rows that the server skips for a failure. -/
  errorOnMissingRow : Bool := false
  /-- Build a batch while the one before it is being written. -/
  concurrent : Bool := true
  /-- Commit a long transaction that succeeds, instead of leaving it open. -/
  commitOnClose : Bool := false
deriving DecidableEq, Repr

namespace Options

/-- The size in bytes above which a batch is sent in a format. -/
def effectiveBatchSize (o : Options) (f : Format) : Nat := o.batchSize.getD f.defaultBatchSize

/-- The text of an optional number. -/
def optionText : Option Nat → String
  | none => "None"
  | some n => s!"Some({n})"

/-- The text of a switch. -/
def switchText (b : Bool) : String := if b then "true" else "false"

/-- The options as messages show them. -/
def describe (o : Options) : String :=
  "InsertConfig \x7b batch_size_bytes: " ++ optionText o.batchSize
    ++ ", long_transaction: " ++ switchText o.longTransaction
    ++ ", error_on_missing_row: " ++ switchText o.errorOnMissingRow
    ++ ", concurrent: " ++ switchText o.concurrent
    ++ ", commit_on_close: " ++ switchText o.commitOnClose ++ " \x7d"

theorem effectiveBatchSize_of_some {o : Options} {n : Nat} (h : o.batchSize = some n) (f : Format) :
    o.effectiveBatchSize f = n := by
  simp [effectiveBatchSize, h]

end Options

end BulkLoad
