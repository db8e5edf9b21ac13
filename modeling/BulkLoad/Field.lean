import BulkLoad.Format
import BulkLoad.Value
import BulkLoad.Number.Decimal
import BulkLoad.Number.Shortest

/-!
# Payload fields

How a value is written as one field of a payload line (`encodeField`). Text is escaped byte by byte, so that no byte of
a value is taken for a delimiter, a line end, an escape or the mark of a missing value.

- `escape_append`: escaping a concatenation concatenates the escaped parts;
- `tab_not_mem_escape`, `lineFeed_not_mem_escape`: escaped text holds neither a tab nor a line feed.
-/

namespace BulkLoad

/-- The field that stands for a missing value. -/
def nullMarker : Bytes := [Bytes.backslash, Bytes.ofAscii 'N']

/-- Why a value cannot be written into a payload. -/
inductive FieldError
  /-- The record gave no value for the column. -/
  | rejected (reason : String)
  | notFinite (x : Binary64)
  | notDecimal (digits : String)
  | nulByte
  | noColumn (table : String) (columns index : Nat)
deriving DecidableEq

/-- The wording of a field error. -/
def FieldError.message : FieldError → String
  | .rejected reason => reason
  | .notFinite x => String.ofList x.display ++ " cannot be represented in a MySQL numeric column"
  | .notDecimal digits => s!"`{digits}` is not a decimal number"
  | .nulByte => "text value contains a NUL byte"
  | .noColumn table columns index => s!"`{table}` has {columns} columns, no column {index}"

/-! ## Escaping -/

/-- The escaped form of one byte. A NUL byte has one in `load-data` only. -/
def escapeByte (f : Format) (b : UInt8) : Except FieldError Bytes :=
  if b = Bytes.backslash then .ok [Bytes.backslash, Bytes.backslash]
  else if b = Bytes.tab then .ok [Bytes.backslash, Bytes.ofAscii 't']
  else if b = Bytes.lineFeed then .ok [Bytes.backslash, Bytes.ofAscii 'n']
  else if b = Bytes.carriageReturn then .ok [Bytes.backslash, Bytes.ofAscii 'r']
  else if b = 0 then
    match f with
    | .loadData => .ok [Bytes.backslash, Bytes.ofAscii '0']
    | .copy => .error .nulByte
  else .ok [b]

/-- The escaped form of a byte sequence. -/
def escape (f : Format) : Bytes → Except FieldError Bytes
  | [] => .ok []
  | b :: bs =>
    match escapeByte f b with
    | .error e => .error e
    | .ok head =>
      match escape f bs with
      | .error e => .error e
      | .ok tail => .ok (head ++ tail)

theorem escape_append {f : Format} : ∀ {a b x y : Bytes}, escape f a = .ok x → escape f b = .ok y →
    escape f (a ++ b) = .ok (x ++ y)
  | [], b, x, y, ha, hb => by cases ha; exact hb
  | c :: a, b, x, y, ha, hb => by
    rw [escape] at ha
    split at ha
    · cases ha
    rename_i head hh
    split at ha
    · cases ha
    rename_i tail ht
    cases ha
    simp [escape, hh, escape_append ht hb]

theorem not_mem_escapeByte {f : Format} {b : UInt8} {x : Bytes} (h : escapeByte f b = .ok x) :
    Bytes.tab ∉ x ∧ Bytes.lineFeed ∉ x := by
  unfold escapeByte at h
  split at h
  · cases h; decide
  split at h
  · cases h; decide
  split at h
  · cases h; decide
  split at h
  · cases h; decide
  split at h
  · cases f <;> cases h
    decide
  · cases h
    simp only [List.mem_singleton]
    exact ⟨fun e => by simp_all, fun e => by simp_all⟩

theorem not_mem_escape {f : Format} : ∀ {bs x : Bytes}, escape f bs = .ok x → Bytes.tab ∉ x ∧ Bytes.lineFeed ∉ x
  | [], x, h => by cases h; simp
  | b :: bs, x, h => by
    rw [escape] at h
    split at h
    · cases h
    rename_i head hh
    split at h
    · cases h
    rename_i tail ht
    cases h
    have h1 := not_mem_escapeByte hh
    have h2 := not_mem_escape ht
    simp [h1.1, h1.2, h2.1, h2.2]

theorem tab_not_mem_escape {f : Format} {bs x : Bytes} (h : escape f bs = .ok x) : Bytes.tab ∉ x :=
  (not_mem_escape h).1

theorem lineFeed_not_mem_escape {f : Format} {bs x : Bytes} (h : escape f bs = .ok x) : Bytes.lineFeed ∉ x :=
  (not_mem_escape h).2

/-! ## Literals -/

/-- The literal of a truth value. -/
def boolLiteral : Format → Bool → Bytes
  | .copy, true => [Bytes.ofAscii 't']
  | .copy, false => [Bytes.ofAscii 'f']
  | .loadData, true => [Bytes.ofAscii '1']
  | .loadData, false => [Bytes.ofAscii '0']

/-- The literal of a double. Only `copy` has names for the infinities and NaN. -/
def floatLiteral (f : Format) (x : Binary64) : Except FieldError Bytes :=
  if x.isFinite then .ok (Bytes.ofChars x.positional)
  else match f with
    | .loadData => .error (.notFinite x)
    | .copy => .ok (Bytes.ofChars (if x.isNaN then "NaN".toList else x.sign ++ "Infinity".toList))

/-- The literal of raw bytes: escaped in `load-data`, in `copy` hexadecimal behind an escaped backslash and an `x`. -/
def bytesLiteral (f : Format) (bs : Bytes) : Except FieldError Bytes :=
  match f with
  | .loadData => escape f bs
  | .copy => .ok (Bytes.ofChars ('\\' :: '\\' :: 'x' :: bs.flatMap hexPair))

/-- The literal of a moment in universal time. A `load-data` column has no zone. -/
def zonedLiteral (f : Format) (t : Moment) : List Char :=
  match f with
  | .copy => t.text ++ ['+', '0', '0']
  | .loadData => t.text

/-- The field that a value becomes. -/
def encodeField (f : Format) : Value → Except FieldError Bytes
  | .null => .ok nullMarker
  | .bool b => .ok (boolLiteral f b)
  | .int i => .ok (Bytes.ofChars (intDigits i.toInt))
  | .float x => floatLiteral f x
  | .decimal digits =>
    if isDecimal digits.toList then .ok (Bytes.ofString digits) else .error (.notDecimal digits)
  | .text s => escape f (Bytes.ofString s)
  | .bytes bs => bytesLiteral f bs
  | .date d => .ok (Bytes.ofChars d.text)
  | .time t => .ok (Bytes.ofChars t.text)
  | .timestamp t => .ok (Bytes.ofChars t.text)
  | .timestampTz t => .ok (Bytes.ofChars (zonedLiteral f t))

end BulkLoad
