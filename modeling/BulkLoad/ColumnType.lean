import BulkLoad.Calendar.Reading
import BulkLoad.Format
import BulkLoad.Number.Decimal
import BulkLoad.Value

/-!
# Column types

The types that a table declares for its columns, and how a server reads an unescaped field as a value of such a type
(`ColumnType.decode`).

- `ColumnType.ofName?_name`: a type is found under its own name;
- `ColumnType.decode_text`: a text column takes every well-formed text as it is.
-/

namespace BulkLoad

open BulkLoad.Calendar

/-- The type of a table column. -/
inductive ColumnType
  | bool
  | int
  | float
  | decimal
  | text
  | bytes
  | date
  | time
  | timestamp
  | timestampTz
deriving DecidableEq, Repr

/-- Why a text is no value of a column type. -/
inductive LiteralFault
  | notBoolean
  | integer (e : IntegerError)
  | float (e : FloatError)
  | outOfRange
  | notDecimal
  | noHexMark
  | oddHexDigits
  | invalidHexDigit
  | calendar (e : ReadError)
deriving DecidableEq, Repr

/-- The wording of a fault in a literal. -/
def LiteralFault.message : LiteralFault → String
  | .notBoolean => "not a boolean literal"
  | .integer e => e.message
  | .float e => e.message
  | .outOfRange => "out of range"
  | .notDecimal => "not a decimal number"
  | .noHexMark => "missing \\x prefix"
  | .oddHexDigits => "odd number of hex digits"
  | .invalidHexDigit => "invalid hex digit"
  | .calendar e => e.message

/-- Why a field is no value of a column type. -/
inductive DecodeError
  | notUtf8
  | badLiteral (type : ColumnType) (literal : String) (fault : LiteralFault)
deriving DecidableEq, Repr

namespace ColumnType

/-- The name of a column type. -/
def name : ColumnType → String
  | bool => "bool"
  | int => "int"
  | float => "float"
  | decimal => "decimal"
  | text => "text"
  | bytes => "bytes"
  | date => "date"
  | time => "time"
  | timestamp => "timestamp"
  | timestampTz => "timestamptz"

/-- The column type of a name or one of its other names, in any case. -/
def ofName? (s : String) : Option ColumnType :=
  let n := s.map Char.toLower
  if n = "bool" ∨ n = "boolean" then some bool
  else if n = "int" ∨ n = "integer" ∨ n = "bigint" then some int
  else if n = "float" ∨ n = "double" then some float
  else if n = "decimal" ∨ n = "numeric" then some decimal
  else if n = "text" ∨ n = "varchar" then some text
  else if n = "bytes" ∨ n = "bytea" ∨ n = "blob" then some bytes
  else if n = "date" then some date
  else if n = "time" then some time
  else if n = "timestamp" ∨ n = "datetime" then some timestamp
  else if n = "timestamptz" then some timestampTz
  else none

/-- The complaint about a name that belongs to no column type. -/
def unknownName (s : String) : String :=
  let n := s.map Char.toLower
  s!"unknown column type `{n}`"

theorem ofName?_name (t : ColumnType) : ofName? t.name = some t := by cases t <;> decide +kernel

end ColumnType

/-- The wording of a decoding error. -/
def DecodeError.message : DecodeError → String
  | .notUtf8 => "invalid UTF-8"
  | .badLiteral type literal fault => s!"invalid {type.name} `{literal}`: {fault.message}"

/-! ## Literals -/

/-- Reads a truth value; `copy` knows several words for each. -/
def readBool (f : Format) (s : String) : Except LiteralFault Bool :=
  match f with
  | .copy =>
    if s ∈ ["t", "true", "y", "yes", "on", "1"] then .ok true
    else if s ∈ ["f", "false", "n", "no", "off", "0"] then .ok false
    else .error .notBoolean
  | .loadData => if s = "1" then .ok true else if s = "0" then .ok false else .error .notBoolean

/-- Reads a double; `load-data` columns hold finite ones only. -/
def readFloat (f : Format) (cs : List Char) : Except LiteralFault Binary64 :=
  match readBinary64 cs with
  | .error e => .error (.float e)
  | .ok x => if f = .loadData ∧ x.isFinite = false then .error .outOfRange else .ok x

/-- Reads pairs of hexadecimal digits. -/
def readHexPairs : Bytes → Except LiteralFault Bytes
  | [] => .ok []
  | [_] => .error .oddHexDigits
  | a :: b :: rest =>
    match hexByte? a, hexByte? b with
    | some x, some y => (readHexPairs rest).map ((x * 16 + y).toUInt8 :: ·)
    | _, _ => .error .invalidHexDigit

/-- Reads raw bytes: a backslash, an `x` and pairs of hexadecimal digits. -/
def readHexBytes (bs : Bytes) : Except LiteralFault Bytes :=
  match bs with
  | a :: b :: digits =>
    if a ≠ Bytes.backslash ∨ b ≠ Bytes.ofAscii 'x' then .error .noHexMark
    else if digits.length % 2 ≠ 0 then .error .oddHexDigits
    else readHexPairs digits
  | _ => .error .noHexMark

/-- Names the place of a fault in a date or time. -/
def calendarFault {α : Type} : Except ReadError α → Except LiteralFault α
  | .ok a => .ok a
  | .error e => .error (.calendar e)

/-- Reads a moment in universal time. A `load-data` column has no zone. -/
def readUniversal (f : Format) (cs : List Char) : Except ReadError Moment :=
  match f with
  | .copy => readZoned cs
  | .loadData => readMoment cs

namespace ColumnType

/-- Reads a literal as a value of the column type. -/
def readLiteral (t : ColumnType) (f : Format) (s : String) : Except LiteralFault Value :=
  match t with
  | bool => (readBool f s).map .bool
  | int => ((readInt64 s.toList).mapError .integer).map .int
  | float => (readFloat f s.toList).map .float
  | decimal => if isStoredDecimal s.toList then .ok (.decimal s) else .error .notDecimal
  | text => .ok (.text s)
  | bytes => (readHexBytes (Bytes.ofString s)).map .bytes
  | date => (calendarFault (readDate s.toList)).map .date
  | time => (calendarFault (readClock s.toList)).map .time
  | timestamp => (calendarFault (readMoment s.toList)).map .timestamp
  | timestampTz => (calendarFault (readUniversal f s.toList)).map .timestampTz

/-- Reads an unescaped field as a value of the column type. Raw bytes of `load-data` need not be text. -/
def decode (t : ColumnType) (f : Format) (raw : Bytes) : Except DecodeError Value :=
  if t = bytes ∧ f = .loadData then .ok (.bytes raw)
  else match Bytes.text? raw with
    | none => .error .notUtf8
    | some s => (t.readLiteral f s).mapError (.badLiteral t s)

theorem decode_text (f : Format) (s : String) : text.decode f (Bytes.ofString s) = .ok (.text s) := by
  simp only [decode, Bytes.text?_ofString, readLiteral]
  rfl

end ColumnType

end BulkLoad
