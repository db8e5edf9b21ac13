import BulkLoad.Database.Table
import BulkLoad.Files
import BulkLoad.Json.Reading
import BulkLoad.Schema

/-!
# Input files

An input file has a JSON object on each line that is not blank. A column specification names the columns to load and
their types; the value of a column is the member of the object with the column's name, read as the column's type
(`valueOfJson`).

- `valueOfJson_null`: `null` is a missing value in every column.
-/

namespace BulkLoad

open BulkLoad.Text BulkLoad.Calendar

/-! ## Column specifications -/

/-- The name and type of a column to load. -/
structure ColumnSpec where
  name : String
  type : ColumnType
deriving DecidableEq, Repr

/-- Why a text is no column specification. -/
inductive ColumnSpecError
  | unknownType (column type : String)
  | noColumns
deriving DecidableEq, Repr

/-- The wording of an error in a column specification. -/
def ColumnSpecError.message : ColumnSpecError → String
  | .unknownType column type => s!"column `{column}`: {ColumnType.unknownName type}"
  | .noColumns => "no columns given"

/-- Reads `name:type`; a column without a type holds text. -/
def readColumnSpec (cs : List Char) : Except ColumnSpecError ColumnSpec :=
  let (name, type) := cutAt ':' cs "text".toList
  let type := String.ofList (trim type)
  match ColumnType.ofName? type with
  | some t => .ok ⟨String.ofList (trim name), t⟩
  | none => .error (.unknownType (String.ofList name) type)

/-- Reads column specifications, up to the first bad one. -/
def readColumnSpecs : List (List Char) → Except ColumnSpecError (List ColumnSpec)
  | [] => .ok []
  | cs :: rest =>
    match readColumnSpec cs with
    | .error e => .error e
    | .ok c => (readColumnSpecs rest).map (c :: ·)

/-- Reads a list of column specifications with commas between them; blank ones are skipped. -/
def parseColumns (spec : String) : Except ColumnSpecError (List ColumnSpec) :=
  let parts := ((spec.toList.splitOn ',').map trim).filter fun p => !p.isEmpty
  match readColumnSpecs parts with
  | .error e => .error e
  | .ok [] => .error .noColumns
  | .ok (c :: cs) => .ok (c :: cs)

/-! ## Values of columns -/

/-- The doubles that JSON has no numbers for, by name. -/
def namedFloat? (s : String) : Option Binary64 :=
  if s = "NaN" then some (.nan false)
  else if s = "Infinity" then some (.infinity false)
  else if s = "-Infinity" then some (.infinity true)
  else none

/-- The byte that an item of an array stands for. -/
def byteOfJson? : Json → Option UInt8
  | .number n => n.asNat?.bind fun n => if n < 256 then some n.toUInt8 else none
  | _ => none

/-- A moment without a zone, with a `T` or blanks between date and time. -/
def readLocalMoment (cs : List Char) : Option Moment :=
  match readMomentWith (literal 'T') cs with
  | .ok t => some t
  | .error _ => (readMoment cs).toOption

/-- The value of a type that a string stands for. -/
def valueOfString? (type : ColumnType) (s : String) : Option Value :=
  match type with
  | .bool => none
  | .int => none
  | .float => (namedFloat? s).map .float
  | .decimal => some (.decimal s)
  | .text => some (.text s)
  | .bytes => some (.bytes (Bytes.ofString s))
  | .date => (readDate s.toList).toOption.map .date
  | .time => (readClock s.toList).toOption.map .time
  | .timestamp => (readLocalMoment s.toList).map .timestamp
  | .timestampTz => (readInternetTime s.toList).toOption.map .timestampTz

/-- The value of a type that a number stands for. -/
def valueOfNumber? (type : ColumnType) (n : JsonNumber) : Option Value :=
  match type with
  | .int => n.asInt64?.map .int
  | .float => some (.float n.asBinary64)
  | .decimal => some (.decimal (String.ofList n.chars))
  | .text => some (.text (String.ofList n.chars))
  | _ => none

/-- The value of a type that a truth value stands for. -/
def valueOfBool? (type : ColumnType) (b : Bool) : Option Value :=
  match type with
  | .bool => some (.bool b)
  | .text => some (.text (Json.boolText b))
  | _ => none

/-- The value of a type that a JSON value stands for. -/
def valueOfJson? (type : ColumnType) : Json → Option Value
  | .null => some .null
  | .bool b => valueOfBool? type b
  | .number n => valueOfNumber? type n
  | .string s => valueOfString? type s
  | .array items => if type = .bytes then (items.mapM byteOfJson?).map .bytes else none
  | .object _ => none

/-- The value of a type that a JSON value stands for, or a complaint that shows the JSON value. -/
def valueOfJson (type : ColumnType) (v : Json) : Except FieldError Value :=
  match valueOfJson? type v with
  | some value => .ok value
  | none => .error (.rejected s!"expected {type.name}, got {v.text}")

theorem valueOfJson_null (type : ColumnType) : valueOfJson type .null = .ok .null := rfl

/-- A column that takes its value from the member of the same name. -/
def ColumnSpec.column (c : ColumnSpec) : Column JsonRecord :=
  { name := c.name, extract := fun r => valueOfJson c.type ((r.get? c.name).getD .null) }

/-- The schema of a table for the columns of a specification. -/
def schemaOf (table : String) (columns : List ColumnSpec) : Except SchemaError (Schema JsonRecord) :=
  Schema.build table (columns.map ColumnSpec.column)

/-- The declaration of a table with the columns of a specification. -/
def tableOf (table : String) (columns : List ColumnSpec) (primaryKey : Option String) : TableDef :=
  let t := columns.foldl (fun t c => t.addColumn c.name c.type) { name := table }
  match primaryKey with
  | some column => t.setPrimaryKey column
  | none => t

/-! ## Records -/

/-- Why the records of a file cannot be read. -/
inductive InputError
  | cannotOpen (path : String)
  | isFolder (path : String)
  | notText (path : String)
  | notObject (path : String) (line : Nat)
deriving DecidableEq, Repr

/-- A line without the carriage return of a line end. -/
def withoutReturn (line : Bytes) (ended : Bool) : Bytes :=
  if ended ∧ line.getLast? = some Bytes.carriageReturn then line.dropLast else line

/-- Reads the records of lines, the first of which has number `n`. -/
def readRecordLines (path : String) (n : Nat) : List Bytes → Except InputError (List JsonRecord)
  | [] => .ok []
  | line :: lines =>
    match Bytes.text? (withoutReturn line !lines.isEmpty) with
    | none => .error (.notText path)
    | some s =>
      if isAllBlank s.toList then readRecordLines path (n + 1) lines
      else match Json.readRecord? s.toList with
        | none => .error (.notObject path n)
        | some r => (readRecordLines path (n + 1) lines).map (r :: ·)

/-- Reads the records of the file at a path. -/
def readRecords (path : String) : FileState → Except InputError (List JsonRecord)
  | .missing => .error (.cannotOpen path)
  | .folder => .error (.isFolder path)
  | .file content => readRecordLines path 1 (content.splitOn Bytes.lineFeed)

end BulkLoad
