import BulkLoad.ColumnType
import BulkLoad.Error
import BulkLoad.Text.Quoted

/-!
# Tables

The declaration of a table, its rows, and the keys under which rows refer to each other. A value that is not missing is
its own key, so two rows have the same key when they hold the same value.

- `TableDef.columnIndex?_lt`: the index of a column is an index into the columns;
- `Rows.keys_push`: a row adds its key to the keys.
-/

namespace BulkLoad

/-! ## Declarations -/

/-- A column of a table. -/
structure ColumnDef where
  name : String
  type : ColumnType
  nullable : Bool
deriving DecidableEq, Repr

/-- A column whose values have to be primary keys of a table, or missing. -/
structure ForeignKey where
  column : String
  references : String
deriving DecidableEq, Repr

/-- The declaration of a table. -/
structure TableDef where
  name : String
  columns : List ColumnDef := []
  primaryKey : Option String := none
  foreignKeys : List ForeignKey := []
deriving DecidableEq, Repr

namespace TableDef

/-- The declaration with a further column whose values may be missing. -/
def addColumn (t : TableDef) (name : String) (type : ColumnType) : TableDef :=
  { t with columns := t.columns ++ [⟨name, type, true⟩] }

/-- The declaration with a further column whose values may not be missing. -/
def addRequired (t : TableDef) (name : String) (type : ColumnType) : TableDef :=
  { t with columns := t.columns ++ [⟨name, type, false⟩] }

/-- Makes values of the first column of a name required. -/
def require (name : String) : List ColumnDef → List ColumnDef
  | [] => []
  | c :: cs => if c.name = name then { c with nullable := false } :: cs else c :: require name cs

/-- The declaration with a primary key. A column of this name that is there already becomes required. -/
def setPrimaryKey (t : TableDef) (column : String) : TableDef :=
  { t with columns := require column t.columns, primaryKey := some column }

/-- The declaration with a further foreign key. -/
def addForeignKey (t : TableDef) (column references : String) : TableDef :=
  { t with foreignKeys := t.foreignKeys ++ [⟨column, references⟩] }

/-- The index of the first column of a name. -/
def columnIndex? (t : TableDef) (name : String) : Option Nat := t.columns.findIdx? fun c => c.name == name

/-- The index of the primary key column. -/
def primaryKeyIndex? (t : TableDef) : Option Nat := t.primaryKey.bind t.columnIndex?

theorem columnIndex?_lt {t : TableDef} {name : String} {i : Nat} (h : t.columnIndex? name = some i) :
    i < t.columns.length := by
  obtain ⟨hi, _⟩ := List.findIdx?_eq_some_iff_getElem.1 h
  exact hi

end TableDef

/-! ## Keys -/

/-- The key that a cell gives to its row or to a reference; a missing value gives none. Unequal cells are different keys.
They also show different texts: the times of day for which that fails are never read into a column. -/
def Value.key? (v : Value) : Option Value := if v.isNull then none else some v

/-- A value as messages show it. -/
def Value.describe : Value → String
  | .null => "Null"
  | .bool b => if b then "Bool(true)" else "Bool(false)"
  | .int i => "Int(" ++ String.ofList (intDigits i.toInt) ++ ")"
  | .float x => "Float(" ++ String.ofList x.display ++ ")"
  | .decimal digits => "Decimal(" ++ Text.quote digits ++ ")"
  | .text s => "Text(" ++ Text.quote s ++ ")"
  | .bytes bs => "Bytes(" ++ Text.byteList bs ++ ")"
  | .date d => "Date(" ++ String.ofList d.text ++ ")"
  | .time t => "Time(" ++ String.ofList t.text ++ ")"
  | .timestamp t => "Timestamp(" ++ String.ofList (t.textWith 'T') ++ ")"
  | .timestampTz t => "TimestampTz(" ++ String.ofList (t.textWith 'T') ++ "Z)"

/-- A key as messages show it: integers, texts and bytes by themselves, a double by its bits, all else by the text of
the value. -/
def Value.describeKey (v : Value) : String :=
  match v with
  | .int _ => v.describe
  | .text _ => v.describe
  | .bytes _ => v.describe
  | .float x => "Other(" ++ Text.quote (toString x.bits.toNat) ++ ")"
  | _ => "Other(" ++ Text.quote v.describe ++ ")"

/-! ## Rows -/

/-- The cells of a row, in the order of the table's columns. -/
abbrev Row := List Value

/-- Rows of a table, the oldest first, and the keys they hold. -/
structure Rows where
  rows : List Row := []
  keys : List Value := []
deriving DecidableEq

namespace Rows

/-- The number of rows. -/
def count (r : Rows) : Nat := r.rows.length

/-- The rows with a further one. -/
def push (r : Rows) (row : Row) (key : Option Value) : Rows := ⟨r.rows ++ [row], r.keys ++ key.toList⟩

/-- The rows followed by others. -/
def append (a b : Rows) : Rows := ⟨a.rows ++ b.rows, a.keys ++ b.keys⟩

theorem keys_push (r : Rows) (row : Row) (key : Option Value) : (r.push row key).keys = r.keys ++ key.toList := rfl

end Rows

/-- A table and its committed rows. -/
structure Table where
  definition : TableDef
  data : Rows := {}

end BulkLoad
