/-!
# Payload formats

The two textual grammars of bulk payloads. Both separate fields with a tab, end lines with a line feed and write `\N`
for a missing value; they differ in which bytes are legal and in how values other than text are spelled.

- `Format.ofName?_name`: a format is found under its own name.
-/

namespace BulkLoad

/-- The grammar of a bulk payload. -/
inductive Format
  /-- The text format of a `COPY ... FROM STDIN` statement. -/
  | copy
  /-- The backslash-escaped format of a `LOAD DATA LOCAL INFILE` statement. -/
  | loadData
deriving DecidableEq, Repr

namespace Format

/-- The name of a format. -/
def name : Format → String
  | copy => "copy"
  | loadData => "load-data"

/-- The payload size in bytes above which a batch is sent. A `LOAD DATA` statement has a fixed cost of its own, so its
batches are larger. -/
def defaultBatchSize : Format → Nat
  | copy => 10 * 1024 * 1024
  | loadData => 50 * 1024 * 1024

/-- The format of an exact name. -/
def ofExactName? (s : String) : Option Format :=
  if s = "copy" then some copy else if s = "load-data" then some loadData else none

/-- The format of a name or one of its other names, in any case. -/
def ofName? (s : String) : Option Format :=
  let n := s.map Char.toLower
  if n = "copy" ∨ n = "pg" ∨ n = "postgres" then some copy
  else if n = "load-data" ∨ n = "mysql" then some loadData
  else none

/-- The complaint about a name that belongs to no format. -/
def unknownName (s : String) : String :=
  let n := s.map Char.toLower
  s!"unknown bulk format `{n}` (expected copy or load-data)"

theorem ofName?_name (f : Format) : ofName? f.name = some f := by cases f <;> decide +kernel

end Format

end BulkLoad
