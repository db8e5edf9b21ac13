import BulkLoad.Field
import BulkLoad.Text.Blank
import BulkLoad.Text.Quoted

/-!
# Schemas

A schema names a table and, in order, the columns to fill; each column has a function that takes its value out of a
record. A schema exists only if the table and the columns have names and no column is named twice
(`Schema.build`).

- `Schema.names_ne_nil`: a schema has a column;
- `Schema.extract_of_lt`: the value of a column is what its extractor gives.
-/

namespace BulkLoad

/-- Why a table and columns make no schema. -/
inductive SchemaError
  | emptyTable
  | noColumns (table : String)
  | emptyColumn (index : Nat) (table : String)
  | duplicateColumn (column table : String)
deriving DecidableEq

/-- The wording of a schema error. -/
def SchemaError.message : SchemaError → String
  | .emptyTable => "table name is empty"
  | .noColumns table => s!"table `{table}` has no columns"
  | .emptyColumn index table => s!"column {index} of `{table}` has an empty name"
  | .duplicateColumn column table => s!"duplicate column `{column}` in `{table}`"

/-- A column to fill, and how to find its value in a record. -/
structure Column (ρ : Type) where
  name : String
  extract : ρ → Except FieldError Value

namespace Schema

/-- A name of nothing but blanks. -/
def isBlankName (s : String) : Bool := Text.isAllBlank s.toList

/-- What is wrong with the first bad column name, where `earlier` names come before. -/
def columnFault? (table : String) (earlier : List String) : List String → Option SchemaError
  | [] => none
  | n :: ns =>
    if isBlankName n then some (.emptyColumn earlier.length table)
    else if n ∈ earlier then some (.duplicateColumn n table)
    else columnFault? table (earlier ++ [n]) ns

/-- What is wrong with a table name and column names. -/
def fault? (table : String) (names : List String) : Option SchemaError :=
  if isBlankName table then some .emptyTable
  else if names.isEmpty then some (.noColumns table)
  else columnFault? table [] names

end Schema

/-- A table and the columns to fill. -/
structure Schema (ρ : Type) where
  table : String
  columns : List (Column ρ)
  faultless : Schema.fault? table (columns.map Column.name) = none

namespace Schema

variable {ρ : Type}

/-- The schema of a table and columns. -/
def build (table : String) (columns : List (Column ρ)) : Except SchemaError (Schema ρ) :=
  match h : fault? table (columns.map Column.name) with
  | some e => .error e
  | none => .ok ⟨table, columns, h⟩

/-- The column names, in order. -/
def names (s : Schema ρ) : List String := s.columns.map Column.name

/-- The value of a column, given by its index. -/
def extract (s : Schema ρ) (record : ρ) (index : Nat) : Except FieldError Value :=
  match s.columns[index]? with
  | some c => c.extract record
  | none => .error (.noColumn s.table s.columns.length index)

/-- The schema as messages show it. -/
def describe (s : Schema ρ) : String :=
  "SchemaDescriptor \x7b table: " ++ Text.quote s.table ++ ", columns: "
    ++ Text.bracketed (s.names.map Text.quote) ++ " \x7d"

theorem names_ne_nil (s : Schema ρ) : s.names ≠ [] := by
  intro h
  have hf := s.faultless
  rw [show s.columns.map Column.name = [] from h, fault?] at hf
  split at hf <;> simp at hf

theorem extract_of_lt {s : Schema ρ} {r : ρ} {i : Nat} (h : i < s.columns.length) :
    s.extract r i = (s.columns[i]).extract r := by
  simp [extract, List.getElem?_eq_getElem h]

end Schema

end BulkLoad
