import BulkLoad.Schema

/-!
# Batches

A batch is a numbered part of a payload. A `Builder` collects the lines of the batch under construction: one record
becomes one line, and a record that cannot be written leaves the builder as it is, because adding answers either a new
builder or an error.

- `Builder.size_batch`: the size of a builder is the number of bytes of the batch it gives;
- `Builder.batch_push`: a line is added behind the others;
- `lineFeed_getLast_encodeLine`: a line ends with a line feed.
-/

namespace BulkLoad

/-- A part of a payload that is sent at once; batches are numbered from one. -/
structure Batch where
  seq : Nat
  records : Nat
  bytes : Bytes
deriving DecidableEq

/-- The number of bytes of a batch. -/
def Batch.size (b : Batch) : Nat := b.bytes.length

/-- Has the batch no records? -/
def Batch.isEmpty (b : Batch) : Bool := b.records = 0

/-- The record that cannot be written, by its place in the batch under construction, and the first column that fails. -/
structure SerializationError where
  batch : Nat
  position : Nat
  column : String
  cause : FieldError
deriving DecidableEq

/-- The wording of a serialization error. -/
def SerializationError.message (e : SerializationError) : String :=
  s!"cannot serialize record {e.position} of batch {e.batch}, column `{e.column}`: {e.cause.message}"

/-! ## Lines -/

section Lines

variable {ρ : Type}

/-- The field of a record for a column. -/
def columnField (f : Format) (record : ρ) (c : Column ρ) : Except FieldError Bytes :=
  match c.extract record with
  | .error e => .error e
  | .ok v => encodeField f v

/-- The fields of a record, or the name of the first column that fails and the cause. -/
def fields (f : Format) (record : ρ) : List (Column ρ) → Except (String × FieldError) (List Bytes)
  | [] => .ok []
  | c :: cs =>
    match columnField f record c with
    | .error e => .error (c.name, e)
    | .ok bytes => (fields f record cs).map (bytes :: ·)

/-- The fields with a tab between them. -/
def joinFields : List Bytes → Bytes
  | [] => []
  | [b] => b
  | b :: bs => b ++ Bytes.tab :: joinFields bs

/-- The line of a record. -/
def encodeLine (f : Format) (s : Schema ρ) (record : ρ) : Except (String × FieldError) Bytes :=
  (fields f record s.columns).map fun fs => joinFields fs ++ [Bytes.lineFeed]

theorem lineFeed_getLast_encodeLine {f : Format} {s : Schema ρ} {r : ρ} {line : Bytes}
    (h : encodeLine f s r = .ok line) : line.getLast? = some Bytes.lineFeed := by
  unfold encodeLine at h
  cases hf : fields f r s.columns with
  | error e => rw [hf] at h; cases h
  | ok fs => rw [hf] at h; cases h; simp

end Lines

/-! ## The builder -/

/-- The batch under construction: its number and its lines, the newest first. -/
structure Builder (ρ : Type) where
  schema : Schema ρ
  format : Format
  seq : Nat := 1
  lines : List Bytes := []
  size : Nat := 0
  size_eq : size = lines.flatten.length := by simp

namespace Builder

variable {ρ : Type}

/-- The number of records in the batch under construction. -/
def records (b : Builder ρ) : Nat := b.lines.length

/-- Has the batch under construction no records? -/
def isEmpty (b : Builder ρ) : Bool := b.records = 0

/-- Is the batch under construction larger than the threshold? -/
def isFilled (b : Builder ρ) (threshold : Nat) : Bool := threshold < b.size

/-- The builder with a further line. -/
def push (b : Builder ρ) (line : Bytes) : Builder ρ :=
  { b with
    lines := line :: b.lines
    size := b.size + line.length
    size_eq := by simp [b.size_eq, Nat.add_comm] }

/-- Adds a record to the batch under construction. -/
def add (b : Builder ρ) (record : ρ) : Except SerializationError (Builder ρ) :=
  match encodeLine b.format b.schema record with
  | .error (column, cause) => .error ⟨b.seq, b.records, column, cause⟩
  | .ok line => .ok (b.push line)

/-- The batch under construction. -/
def batch (b : Builder ρ) : Batch := ⟨b.seq, b.records, b.lines.reverse.flatten⟩

/-- The builder of the batch after this one. -/
def next (b : Builder ρ) : Builder ρ := { schema := b.schema, format := b.format, seq := b.seq + 1 }

theorem size_batch (b : Builder ρ) : b.batch.size = b.size := by
  simp [batch, Batch.size, b.size_eq, List.length_flatten, List.sum_reverse]

theorem batch_push (b : Builder ρ) (line : Bytes) :
    (b.push line).batch = ⟨b.seq, b.records + 1, b.batch.bytes ++ line⟩ := by
  simp [batch, push, records]

end Builder

/-! ## Cutting records into batches -/

/-- A batch that was filled, and how many records had been taken by then. -/
structure Filled where
  batch : Batch
  taken : Nat

/-- How the cutting of records ends. -/
inductive Ending
  /-- All records are taken; the last batch may be empty. -/
  | rest (batch : Batch)
  | failed (e : SerializationError)

/-- Records cut into batches: each is larger than the threshold and was not before its last line. -/
structure Cut where
  filled : List Filled
  ending : Ending
  taken : Nat

section Cutting

variable {ρ : Type}

/-- Cuts further records, when `taken` of them have been taken. -/
def cutFrom (threshold : Nat) (b : Builder ρ) (taken : Nat) : List ρ → Cut
  | [] => ⟨[], .rest b.batch, taken⟩
  | r :: rs =>
    match b.add r with
    | .error e => ⟨[], .failed e, taken + 1⟩
    | .ok b =>
      if b.isFilled threshold then
        let c := cutFrom threshold b.next (taken + 1) rs
        { c with filled := ⟨b.batch, taken + 1⟩ :: c.filled }
      else cutFrom threshold b (taken + 1) rs

/-- Cuts records into batches. -/
def cutRecords (s : Schema ρ) (f : Format) (threshold : Nat) (records : List ρ) : Cut :=
  cutFrom threshold { schema := s, format := f } 0 records

/-- The batches of a cut that are to be sent. -/
def Cut.batches (c : Cut) : List Batch :=
  c.filled.map Filled.batch ++
    match c.ending with
    | .rest b => if b.isEmpty then [] else [b]
    | .failed _ => []

end Cutting

end BulkLoad
