import BulkLoad.Batch

/-!
# Batches in one buffer

A buffer holds the batch under construction as one sequence of bytes (`Buffer`). A record is written into it field by
field. Where a field cannot be written, the fields before it are in the buffer already, and with a text or raw bytes so
are the bytes before the one that cannot be escaped. The buffer is then cut back to where the record began
(`Buffer.add`).

- `Buffer.size_take`: the size of a buffer is the number of bytes of the batch it gives away;
- `Buffer.seq_take`: the next batch has the next number.
-/

namespace BulkLoad

/-- Writes behind the bytes of a buffer. When it fails, what it has written stays there. -/
abbrev Put (ε : Type) : Type → Type := ExceptT ε (StateM (Array UInt8))

/-! ## Fields -/

/-- Writes bytes. -/
def put {ε : Type} (bs : Bytes) : Put ε Unit := ExceptT.mk fun buffer => (.ok (), buffer ++ bs.toArray)

/-- Writes a literal that is known before any of it is written, or fails with none of it written. -/
def putLiteral {ε : Type} : Except ε Bytes → Put ε Unit
  | .error e => throw e
  | .ok bs => put bs

/-- Writes the escaped form of bytes, one after the other. -/
def putEscaped (f : Format) : Bytes → Put FieldError Unit
  | [] => pure ()
  | b :: bs => do
    putLiteral (escapeByte f b)
    putEscaped f bs

/-- Writes bytes as hexadecimal digits. -/
def putHex : Bytes → Put FieldError Unit
  | [] => pure ()
  | b :: bs => do
    put (Bytes.ofChars (hexPair b))
    putHex bs

/-- Writes raw bytes. -/
def putBytes (f : Format) (bs : Bytes) : Put FieldError Unit :=
  match f with
  | .loadData => putEscaped f bs
  | .copy => do
    put (Bytes.ofChars ['\\', '\\', 'x'])
    putHex bs

/-- Writes a moment in universal time, and behind it its zone where a column has one. -/
def putZoned (f : Format) (t : Moment) : Put FieldError Unit := do
  put (Bytes.ofChars t.text)
  match f with
  | .copy => put (Bytes.ofChars ['+', '0', '0'])
  | .loadData => pure ()

/-- Writes the field of a value. -/
def putField (f : Format) (v : Value) : Put FieldError Unit :=
  match v with
  | .text s => putEscaped f (Bytes.ofString s)
  | .bytes bs => putBytes f bs
  | .timestampTz t => putZoned f t
  | v => putLiteral (encodeField f v)

/-! ## Lines -/

section Lines

variable {ρ : Type}

/-- Writes the field of a record for a column. -/
def putColumn (f : Format) (record : ρ) (c : Column ρ) : Put FieldError Unit :=
  match c.extract record with
  | .error e => throw e
  | .ok v => putField f v

/-- Writes a tab before a field that is not the first one. -/
def putSeparator {ε : Type} (first : Bool) : Put ε Unit := if first then pure () else put [Bytes.tab]

/-- Writes the fields of a record, up to the first column that fails, with a tab before each but the first. -/
def putFields (f : Format) (record : ρ) : (first : Bool) → List (Column ρ) → Put (String × FieldError) Unit
  | _, [] => pure ()
  | first, c :: cs => do
    putSeparator first
    ExceptT.adapt (fun e => (c.name, e)) (putColumn f record c)
    putFields f record false cs

/-- Writes the line of a record. -/
def putLine (f : Format) (s : Schema ρ) (record : ρ) : Put (String × FieldError) Unit := do
  putFields f record true s.columns
  put [Bytes.lineFeed]

end Lines

/-! ## The buffer -/

/-- A batch under construction: its number, the number of its records, and its bytes. -/
structure Buffer (ρ : Type) where
  schema : Schema ρ
  format : Format
  seq : Nat := 1
  records : Nat := 0
  bytes : Array UInt8 := #[]

namespace Buffer

variable {ρ : Type}

/-- The number of bytes. -/
def size (b : Buffer ρ) : Nat := b.bytes.size

/-- Has the batch under construction no records? -/
def isEmpty (b : Buffer ρ) : Bool := b.records = 0

/-- Is the batch under construction larger than the threshold? -/
def isFilled (b : Buffer ρ) (threshold : Nat) : Bool := threshold < b.size

/-- Adds a record to the batch under construction. -/
def add (b : Buffer ρ) (record : ρ) : Except SerializationError Unit × Buffer ρ :=
  match (putLine b.format b.schema record).run.run b.bytes with
  | (.ok (), bytes) => (.ok (), { b with records := b.records + 1, bytes := bytes })
  | (.error (column, cause), bytes) =>
    (.error ⟨b.seq, b.records, column, cause⟩, { b with bytes := bytes.shrink b.size })

/-- Gives the batch under construction away and starts the next one. -/
def take (b : Buffer ρ) : Batch × Buffer ρ :=
  (⟨b.seq, b.records, b.bytes.toList⟩, { b with seq := b.seq + 1, records := 0, bytes := #[] })

theorem size_take (b : Buffer ρ) : b.take.1.size = b.size := Array.length_toList

theorem seq_take (b : Buffer ρ) : b.take.2.seq = b.take.1.seq + 1 := rfl

end Buffer

end BulkLoad
