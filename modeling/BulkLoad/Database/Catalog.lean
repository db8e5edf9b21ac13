import BulkLoad.Database.Table
import BulkLoad.Effect
import BulkLoad.Payload
import BulkLoad.Statement
import BulkLoad.Target

/-!
# Catalogs

The tables of a database with their committed rows, and the rows that a session has staged but not committed. A bulk
statement is checked row by row (`judge`) against everything its session sees: the committed rows, the rows that the
session has staged and the rows accepted before in the same statement. It is accepted as a whole or not at all; rows
with a reference to a missing row are skipped by `load-data` only. Staged rows are published together (`commit`),
unless another session has taken one of their keys.

- `Catalog.state_load_of_error`: a statement that fails stages nothing;
- `Catalog.find?_publish_ne`: publishing rows of a table leaves the other tables alone.
-/

namespace BulkLoad

/-- The tables of a database, in the order of their creation. -/
structure Catalog where
  tables : List Table := []

/-- The transaction of a connection: its mode, and the rows it has staged for each table. -/
structure Session where
  autocommit : Bool := true
  staged : List (String × Rows) := []

namespace Session

/-- The rows staged for a table. -/
def stagedFor (s : Session) (table : String) : Rows := (s.staged.lookup table).getD {}

/-- The number of rows staged for all tables. -/
def stagedCount (s : Session) : Nat := (s.staged.flatMap fun t => t.2.rows).length

/-- Is there a row that has not been committed? -/
def inTransaction (s : Session) : Bool := s.stagedCount ≠ 0

/-- Adds rows behind those staged for a table. -/
def stageIn (table : String) (rows : Rows) : List (String × Rows) → List (String × Rows)
  | [] => [(table, rows)]
  | (t, r) :: rest => if t = table then (t, r.append rows) :: rest else (t, r) :: stageIn table rows rest

/-- The session with further staged rows. -/
def stage (s : Session) (table : String) (rows : Rows) : Session := { s with staged := stageIn table rows s.staged }

/-- The session without its staged rows. -/
def discard (s : Session) : Session := { s with staged := [] }

end Session

/-- A line of the log about the catalog. -/
def Catalog.line (level : Level) (text : String) : LogLine := { level := level, origin := .catalog, text := text }

/-- The line that tells how many rows are given up, if there are any. -/
def Session.discardLog (s : Session) : List LogLine :=
  if s.inTransaction then [Catalog.line .debug s!"discarding {s.stagedCount} uncommitted rows"] else []

namespace Catalog

/-- The table of a name. -/
def find? (c : Catalog) (table : String) : Option Table := c.tables.find? fun t => t.definition.name == table

/-- The keys of a table's committed rows. -/
def keysOf (c : Catalog) (table : String) : List Value := ((c.find? table).map fun t => t.data.keys).getD []

/-! ## Creating tables -/

/-- Why a table cannot be created. -/
inductive CreateError
  | tableExists (table : String)
  | noColumns (table : String)
  | noKeyColumn (column : String)
  | noForeignKeyColumn (column : String)
  | noReferencedKey (table : String)
deriving DecidableEq, Repr

/-- The wording of a creation error. -/
def CreateError.message : CreateError → String
  | .tableExists table => s!"table `{table}` already exists"
  | .noColumns table => s!"table `{table}` has no columns"
  | .noKeyColumn column => s!"primary key column `{column}` does not exist"
  | .noForeignKeyColumn column => s!"foreign key column `{column}` does not exist"
  | .noReferencedKey table => s!"referenced table `{table}` does not exist or has no primary key"

/-- Has the table that a foreign key of `t` refers to a primary key? A table may refer to itself. -/
def hasReferencedKey (c : Catalog) (t : TableDef) (fk : ForeignKey) : Bool :=
  if fk.references = t.name then t.primaryKey.isSome
  else (c.find? fk.references).any fun r => r.definition.primaryKey.isSome

/-- What is wrong with the first bad foreign key of `t`. -/
def foreignKeyFault? (c : Catalog) (t : TableDef) : List ForeignKey → Option CreateError
  | [] => none
  | fk :: fks =>
    if (t.columnIndex? fk.column).isNone then some (.noForeignKeyColumn fk.column)
    else if !c.hasReferencedKey t fk then some (.noReferencedKey fk.references)
    else foreignKeyFault? c t fks

/-- What is wrong with the primary key of `t`. -/
def primaryKeyFault? (t : TableDef) : Option CreateError :=
  match t.primaryKey with
  | none => none
  | some column => if (t.columnIndex? column).isNone then some (.noKeyColumn column) else none

/-- What is wrong with a declaration. -/
def createFault? (c : Catalog) (t : TableDef) : Option CreateError :=
  if (c.find? t.name).isSome then some (.tableExists t.name)
  else if t.columns.isEmpty then some (.noColumns t.name)
  else (primaryKeyFault? t).or (c.foreignKeyFault? t t.foreignKeys)

/-- The catalog with a further table. -/
def create (c : Catalog) (t : TableDef) : Except CreateError Catalog :=
  match c.createFault? t with
  | some e => .error e
  | none => .ok { tables := c.tables ++ [{ definition := t }] }

/-! ## Bulk statements -/

/-- Why a bulk statement fails. Lines are numbered from one. -/
inductive LoadError
  | unknownTable (table : String)
  | unknownColumn (column table : String)
  | payload (e : PayloadError)
  | fieldCount (line expected got : Nat)
  | badValue (line : Nat) (column : String) (e : DecodeError)
  | nullValue (line : Nat) (column : String)
  | danglingReference (line : Nat) (fk : ForeignKey)
  | duplicateKey (line : Nat) (key : Value) (table : String)
deriving DecidableEq

/-- The wording of a reference to a missing row. -/
def danglingText (line : Nat) (fk : ForeignKey) : String :=
  s!"line {line}: `{fk.column}` references a missing row of `{fk.references}`"

namespace LoadError

/-- The wording of a load error. -/
def message : LoadError → String
  | unknownTable table => s!"table `{table}` does not exist"
  | unknownColumn column table => s!"column `{column}` of `{table}` does not exist"
  | payload e => e.message
  | fieldCount line expected got => s!"line {line}: expected {expected} fields, got {got}"
  | badValue line column e => s!"line {line}, column `{column}`: {e.message}"
  | nullValue line column => s!"line {line}: null value in column `{column}`"
  | danglingReference line fk => danglingText line fk
  | duplicateKey line key table => s!"line {line}: duplicate primary key {key.describeKey} in `{table}`"

/-- The kind under which a load error is reported. -/
def kind : LoadError → DriverErrorKind
  | unknownTable _ => .other
  | unknownColumn _ _ => .other
  | payload _ => .typeMismatch
  | fieldCount _ _ _ => .typeMismatch
  | badValue _ _ _ => .typeMismatch
  | nullValue _ _ => .constraintViolation
  | danglingReference _ _ => .missingReference
  | duplicateKey _ _ _ => .constraintViolation

/-- The code that a server of the format gives to a load error. -/
def code (f : Format) : LoadError → String
  | unknownTable _ => match f with | .copy => "42P01" | .loadData => "1146"
  | unknownColumn _ _ => match f with | .copy => "42703" | .loadData => "1054"
  | payload _ => match f with | .copy => "22P02" | .loadData => "1366"
  | fieldCount _ _ _ => match f with | .copy => "22P02" | .loadData => "1366"
  | badValue _ _ _ => match f with | .copy => "22P02" | .loadData => "1366"
  | nullValue _ _ => match f with | .copy => "23502" | .loadData => "1048"
  | danglingReference _ _ => match f with | .copy => "23503" | .loadData => "1452"
  | duplicateKey _ _ _ => match f with | .copy => "23505" | .loadData => "1062"

/-- A load error as the driver reports it. -/
def report (f : Format) (e : LoadError) : DriverError := ⟨e.kind, some (e.code f), e.message⟩

end LoadError

/-- The positions in a table of the columns that a statement names. -/
def positions (t : TableDef) : List String → Except LoadError (List Nat)
  | [] => .ok []
  | n :: ns =>
    match t.columnIndex? n with
    | none => .error (.unknownColumn n t.name)
    | some i => (positions t ns).map (i :: ·)

/-- Reads the fields of a line into the cells at their positions; a missing value leaves its cell alone. -/
def fillRow (f : Format) (t : TableDef) (line : Nat) : Row → List (Option Bytes × Nat) → Except LoadError Row
  | row, [] => .ok row
  | row, (none, _) :: rest => fillRow f t line row rest
  | row, (some field, i) :: rest =>
    match t.columns[i]? with
    | none => fillRow f t line row rest
    | some c =>
      match c.type.decode f field with
      | .error e => .error (.badValue line c.name e)
      | .ok v => fillRow f t line (row.set i v) rest

/-- The row of a line. -/
def decodeRow (f : Format) (t : TableDef) (positions : List Nat) (line : Nat) (raw : RawRow) : Except LoadError Row :=
  if raw.length ≠ positions.length then .error (.fieldCount line positions.length raw.length)
  else fillRow f t line (List.replicate t.columns.length .null) (raw.zip positions)

/-- The first required column without a value. -/
def missingColumn? (t : TableDef) (row : Row) : Option String :=
  ((t.columns.zip row).find? fun c => !c.1.nullable && c.2.isNull).map fun c => c.1.name

/-- The key in the cell at an index. -/
def keyAt? (row : Row) (i : Option Nat) : Option Value := i.bind fun i => row[i]?.bind Value.key?

/-- The keys of a table that a session sees. -/
def visibleKeys (c : Catalog) (s : Session) (table : String) : List Value :=
  c.keysOf table ++ (s.stagedFor table).keys

/-- Does the row hold a reference to a row that is not there? A statement sees its own accepted rows. -/
def dangles (c : Catalog) (s : Session) (t : TableDef) (accepted : Rows) (row : Row) (fk : ForeignKey) : Bool :=
  match keyAt? row (t.columnIndex? fk.column) with
  | none => false
  | some key =>
    !((c.visibleKeys s fk.references).contains key || (fk.references == t.name && accepted.keys.contains key))

/-- What a statement does with a row. -/
inductive Verdict
  | accept (row : Row) (key : Option Value)
  | skip (fk : ForeignKey)
  | refuse (e : LoadError)

/-- Judges a decoded row by the constraints of the table, in their order. -/
def judgeRow (c : Catalog) (s : Session) (f : Format) (t : TableDef) (accepted : Rows) (line : Nat) (row : Row) :
    Verdict :=
  match missingColumn? t row with
  | some column => .refuse (.nullValue line column)
  | none =>
    match t.foreignKeys.find? (c.dangles s t accepted row) with
    | some fk =>
      match f with
      | .copy => .refuse (.danglingReference line fk)
      | .loadData => .skip fk
    | none =>
      match keyAt? row t.primaryKeyIndex? with
      | none => .accept row none
      | some key =>
        if (c.visibleKeys s t.name).contains key || accepted.keys.contains key then
          .refuse (.duplicateKey line key t.name)
        else .accept row (some key)

/-- Judges the row of a line. -/
def judge (c : Catalog) (s : Session) (f : Format) (t : TableDef) (positions : List Nat) (accepted : Rows) (line : Nat)
    (raw : RawRow) : Verdict :=
  match decodeRow f t positions line raw with
  | .error e => .refuse e
  | .ok row => c.judgeRow s f t accepted line row

/-- A skipped line and the reference that is missing. -/
structure Skip where
  line : Nat
  fk : ForeignKey
deriving DecidableEq

/-- The rows accepted and skipped, up to the first line that fails. -/
structure Scan where
  accepted : Rows
  skipped : List Skip
  failure : Option LoadError

/-- Judges lines one after the other, the first of which has number `line`. -/
def scan (c : Catalog) (s : Session) (f : Format) (t : TableDef) (positions : List Nat) (accepted : Rows) (line : Nat) :
    List RawRow → Scan
  | [] => ⟨accepted, [], none⟩
  | raw :: rest =>
    match c.judge s f t positions accepted line raw with
    | .refuse e => ⟨accepted, [], some e⟩
    | .skip fk =>
      let r := scan c s f t positions accepted (line + 1) rest
      { r with skipped := ⟨line, fk⟩ :: r.skipped }
    | .accept row key => scan c s f t positions (accepted.push row key) (line + 1) rest

/-- What a bulk statement finds before it is accepted: the table and the scan of its lines. -/
def examine (c : Catalog) (s : Session) (f : Format) (d : Destination) (payload : Bytes) :
    Except LoadError (TableDef × Scan) :=
  match c.find? d.table with
  | none => .error (.unknownTable d.table)
  | some table =>
    match positions table.definition d.columns with
    | .error e => .error e
    | .ok ps =>
      match readPayload f payload with
      | .error e => .error (.payload e)
      | .ok rows => .ok (table.definition, c.scan s f table.definition ps {} 1 rows)

/-- The lines of the log about skipped rows. -/
def skipLog (skipped : List Skip) : List LogLine :=
  skipped.map fun k => line .warn s!"skipped {danglingText k.line k.fk}"

/-- Runs a bulk statement in a session: all its accepted rows are staged, or nothing is. -/
def load (c : Catalog) (s : Session) (f : Format) (d : Destination) (payload : Bytes) :
    Effect Session (Except LoadError Ack) :=
  match c.examine s f d payload with
  | .error e => ⟨.error e, s, []⟩
  | .ok (t, r) =>
    match r.failure with
    | some e => ⟨.error e, s, skipLog r.skipped⟩
    | none =>
      ⟨.ok ⟨r.accepted.count, r.skipped.length⟩, s.stage t.name r.accepted,
        skipLog r.skipped ++
          [line .debug s!"loaded {r.accepted.count} rows into `{t.name}` ({r.skipped.length} skipped)"]⟩

theorem state_load_of_error {c : Catalog} {s : Session} {f : Format} {d : Destination} {payload : Bytes} {e : LoadError}
    (h : (c.load s f d payload).value = .error e) : (c.load s f d payload).state = s := by
  unfold load at h ⊢
  split at h
  · rfl
  split at h
  · rfl
  · cases h

/-! ## Committing -/

/-- A staged key that another session has committed meanwhile. -/
structure Conflict where
  key : Value
  table : String
deriving DecidableEq

/-- A conflict as the driver reports it. -/
def Conflict.report (k : Conflict) : DriverError :=
  { kind := .constraintViolation
    message := s!"commit failed: duplicate primary key {k.key.describeKey} in `{k.table}`" }

/-- The first key staged for a table that is committed already. -/
def conflictIn? (c : Catalog) (staged : List (String × Rows)) (table : String) : Option Conflict :=
  (((staged.lookup table).getD {}).keys.find? fun k => (c.keysOf table).contains k).map fun key => ⟨key, table⟩

/-- The first staged key that is committed already, by the order of the tables. -/
def conflict? (c : Catalog) (staged : List (String × Rows)) : Option Conflict :=
  c.tables.findSome? fun t => c.conflictIn? staged t.definition.name

/-- The catalog with further committed rows of a table. -/
def publish (c : Catalog) (table : String) (rows : Rows) : Catalog :=
  { tables := c.tables.map fun t =>
      if t.definition.name = table then { t with data := t.data.append rows } else t }

/-- Publishes staged rows table by table. -/
def publishAll (c : Catalog) : List (String × Rows) → Catalog
  | [] => c
  | (table, rows) :: rest => publishAll (c.publish table rows) rest

/-- Publishes everything that a session has staged, or nothing. -/
def commit (c : Catalog) (s : Session) : Except Conflict Catalog :=
  match c.conflict? s.staged with
  | some k => .error k
  | none => .ok (c.publishAll s.staged)

/-- The lines of the log about a commit. -/
def commitLog (c : Catalog) (s : Session) : List LogLine :=
  match c.conflict? s.staged with
  | some _ => s.discardLog
  | none => s.staged.map fun t => line .debug s!"committing {t.2.count} rows into `{t.1}`"

theorem find?_publish_ne {c : Catalog} {table other : String} (rows : Rows) (h : other ≠ table) :
    (c.publish table rows).find? other = c.find? other := by
  obtain ⟨tables⟩ := c
  simp only [find?, publish]
  induction tables with
  | nil => rfl
  | cons t ts ih =>
    by_cases ht : t.definition.name = table
    · have hne : t.definition.name ≠ other := fun e => h (e.symm.trans ht)
      simp only [List.map_cons, ht, if_true, List.find?_cons]
      rw [ht] at hne
      simp only [beq_eq_false_iff_ne.2 hne, ih]
    · simp only [List.map_cons, if_neg ht, List.find?_cons, ih]

end Catalog

end BulkLoad
