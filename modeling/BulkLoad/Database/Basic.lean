import BulkLoad.Database.Catalog

/-!
# Databases

A database in memory with any number of connections. Each connection has a session of its own; a channel runs its
statements in the session of the connection that opened it. A statement of a session in autocommit is committed as soon
as it has run, and switching autocommit on commits what the session has staged.

- `Database.count_none`: only tables that exist have a number of rows.
-/

namespace BulkLoad

/-- A connection to a database. -/
structure Connection where
  format : Format
  /-- May the connection open bulk channels? -/
  allowsBulk : Bool
  session : Session := {}

/-- A bulk channel of a connection. -/
structure Channel where
  connection : Nat
  closed : Bool := false

/-- The tables of a database, its connections and its channels; the latter two are known by their numbers. -/
structure Database where
  catalog : Catalog := {}
  connections : List Connection := []
  channels : List Channel := []

namespace Database

/-- A connection by its number. -/
def connection (d : Database) (n : Nat) : Connection := d.connections.getD n { format := .copy, allowsBulk := false }

/-- The session of a connection. -/
def session (d : Database) (n : Nat) : Session := (d.connection n).session

/-- The database with another session of a connection. -/
def setSession (d : Database) (n : Nat) (s : Session) : Database :=
  { d with connections := d.connections.modify n fun c => { c with session := s } }

/-! ## Operations -/

/-- Creates a table. -/
def createTable (t : TableDef) : Act Database (Except DriverError Unit) := fun d =>
  match d.catalog.create t with
  | .error e => ⟨.error { kind := .other, message := e.message }, d, []⟩
  | .ok c => ⟨.ok (), { d with catalog := c }, [Catalog.line .debug s!"created table `{t.name}`"]⟩

/-- Opens a connection and answers its number. -/
def connect (format : Format) (allowsBulk : Bool) : Act Database Nat := fun d =>
  ⟨d.connections.length, { d with connections := d.connections ++ [⟨format, allowsBulk, {}⟩] }, []⟩

/-- The complaint of a connection that may not open bulk channels. -/
def bulkDisabled (f : Format) : DriverError :=
  { kind := .unsupported
    code := some (match f with | .copy => "0A000" | .loadData => "1148")
    message := s!"{f.name} is disabled on this connection" }

/-- Opens a bulk channel of a connection and answers its number. -/
def openChannel (n : Nat) : Act Database (Except DriverError Nat) := fun d =>
  let c := d.connection n
  if c.allowsBulk then
    ⟨.ok d.channels.length, { d with channels := d.channels ++ [{ connection := n }] },
      [{ level := .debug, origin := .connection, text := s!"opened {c.format.name} channel" }]⟩
  else ⟨.error (bulkDisabled c.format), d, []⟩

/-- Commits what a connection has staged. After a conflict nothing is staged any more. -/
def commit (n : Nat) : Act Database (Except DriverError Unit) := fun d =>
  let s := d.session n
  let cleared := d.setSession n s.discard
  match d.catalog.commit s with
  | .error k => ⟨.error k.report, cleared, d.catalog.commitLog s⟩
  | .ok c => ⟨.ok (), { cleared with catalog := c }, d.catalog.commitLog s⟩

/-- Gives up what a connection has staged. -/
def rollback (n : Nat) : Act Database (Except DriverError Unit) := fun d =>
  let s := d.session n
  ⟨.ok (), d.setSession n s.discard, s.discardLog⟩

/-- Sets the mode of a connection. -/
def setMode (n : Nat) (on : Bool) : Act Database Unit := fun d =>
  ⟨(), d.setSession n { d.session n with autocommit := on }, []⟩

/-- Switches autocommit. Switching it on commits what is staged, and fails with the commit. -/
def setAutocommit (n : Nat) (on : Bool) : Act Database (Except DriverError Unit) := do
  let s ← Act.ask fun d => d.session n
  if on && !s.autocommit && s.inTransaction then
    match ← commit n with
    | .error e => pure (.error e)
    | .ok () => do setMode n on; pure (.ok ())
  else do setMode n on; pure (.ok ())

/-- Stages the rows of a bulk statement in the session of a connection. -/
def load (n : Nat) (dest : Destination) (payload : Bytes) : Act Database (Except DriverError Ack) := fun d =>
  let c := d.connection n
  let e := d.catalog.load c.session c.format dest payload
  ⟨e.value.mapError (·.report c.format), d.setSession n e.state, e.log⟩

/-- Runs a bulk statement on a connection, and commits it under autocommit. -/
def runStatement (n : Nat) (header : String) (payload : Bytes) : Act Database (Except DriverError Ack) := do
  let c ← Act.ask fun d => d.connection n
  match Destination.read? c.format header with
  | none => pure (.error { kind := .other, message := s!"syntax error in bulk statement: {header}" })
  | some dest =>
    match ← load n dest payload with
    | .error e => pure (.error e)
    | .ok ack =>
      if c.session.autocommit then do
        let r ← commit n
        pure (r.map fun _ => ack)
      else pure (.ok ack)

/-- Runs a bulk statement through a channel. -/
def send (channel : Nat) (header : String) (payload : Bytes) : Act Database (Except DriverError Ack) := do
  match ← Act.ask fun d => d.channels[channel]? with
  | none => pure (.error { kind := .other, message := "channel is closed" })
  | some ch =>
    if ch.closed then pure (.error { kind := .other, message := "channel is closed" })
    else runStatement ch.connection header payload

/-- Closes a channel. -/
def closeChannel (channel : Nat) : Act Database (Except DriverError Unit) := fun d =>
  ⟨.ok (), { d with channels := d.channels.modify channel fun c => { c with closed := true } }, []⟩

/-! ## What can be seen -/

/-- The committed rows of a table. -/
def rows? (d : Database) (table : String) : Option (List Row) := (d.catalog.find? table).map fun t => t.data.rows

/-- The number of committed rows of a table. -/
def count? (d : Database) (table : String) : Option Nat := (d.rows? table).map List.length

/-- The number of rows of a table that a connection sees. -/
def visibleCount? (d : Database) (n : Nat) (table : String) : Option Nat :=
  (d.count? table).map (· + ((d.session n).stagedFor table).count)

theorem count_none {d : Database} {table : String} : d.count? table = none ↔ d.catalog.find? table = none := by
  simp [count?, rows?]

end Database

/-! ## A connection as a target -/

/-- A database seen from one of its connections. -/
structure Client where
  database : Database
  connection : Nat

namespace Client

/-- Runs an operation of the database. -/
def run {α : Type} (x : Act Database α) : Act Client α := fun c =>
  let e := x c.database
  ⟨e.value, { c with database := e.state }, e.log⟩

/-- Runs an operation with the number of the connection. -/
def runFor {α : Type} (x : Nat → Act Database α) : Act Client α := fun c => run (x c.connection) c

/-- A database answers every statement. -/
def sendResult : Except DriverError Ack → SendResult
  | .ok a => .acked a
  | .error e => .refused e

instance : Target Client Nat where
  format c := (c.database.connection c.connection).format
  autocommit c := (c.database.session c.connection).autocommit
  setAutocommit on := runFor fun n => Database.setAutocommit n on
  commit := runFor Database.commit
  rollback := runFor Database.rollback
  openChannel := runFor Database.openChannel
  send channel header payload := do
    let r ← run (Database.send channel header payload)
    pure (sendResult r)
  closeChannel channel := run (Database.closeChannel channel)

end Client

end BulkLoad
