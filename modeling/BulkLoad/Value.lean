import BulkLoad.Calendar.Clock
import BulkLoad.Number.Binary64
import BulkLoad.Text.Bytes

/-!
# Column values

The values that a record has in its columns. Exact decimals keep the text they were given.
-/

namespace BulkLoad

/-- A value of one column. -/
inductive Value
  | null
  | bool (b : Bool)
  | int (i : Int64)
  | float (x : Binary64)
  | decimal (digits : String)
  | text (s : String)
  | bytes (bs : Bytes)
  | date (d : Date)
  | time (t : Clock)
  | timestamp (t : Moment)
  /-- A moment in universal time. -/
  | timestampTz (t : Moment)
deriving DecidableEq

namespace Value

/-- Is the value missing? -/
def isNull : Value → Bool
  | null => true
  | _ => false

@[simp] theorem isNull_iff {v : Value} : v.isNull = true ↔ v = null := by cases v <;> simp [isNull]

/-- The value of an optional item, missing when there is none. -/
def ofOption {α : Type} (f : α → Value) : Option α → Value
  | none => null
  | some a => f a

end Value

end BulkLoad
