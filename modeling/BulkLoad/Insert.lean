import BulkLoad.Policy
import BulkLoad.Statement
import BulkLoad.Writer.Pipelined

/-!
# Bulk inserts

An insert opens a channel, acquires a transaction policy, sends the records in batches and ends everything in order:
the writer is closed, then the policy, each with the outcome so far, and the first failure is the one that is reported
(`insertAll`). Before a batch is written, the one before it has been acknowledged and settled.

- `preferFirst_error`: a failure is never replaced by a later one.
-/

namespace BulkLoad

/-- What an insert comes to, and how many records were taken for it. -/
structure InsertReport where
  result : Except BulkError Progress
  taken : Nat

/-- An insert under way. -/
structure Job (ω : Type) where
  writer : ω
  policy : Policy
  taken : Nat := 0

/-- A step of an insert, which may fail. -/
abbrev Stage (ω τ : Type) := ExceptT BulkError (StateT (Job ω) (Act τ))

namespace Insert

/-- A line of the log about an insert. -/
def line (level : Level) (text : String) : LogLine := { level := level, origin := .insert, text := text }

section Stages

variable {ω τ κ : Type} [Target τ κ]

/-- Logs a line. -/
def say (text : String) : Stage ω τ Unit := ExceptT.mk fun j => do
  Act.note (line .debug text)
  pure (.ok (), j)

/-- Takes note of the number of records taken. -/
def reach (taken : Nat) : Stage ω τ Unit := ExceptT.mk fun j => pure (.ok (), { j with taken := taken })

/-- Waits until every batch has been acknowledged. -/
def wait (ops : Writer ω τ) : Stage ω τ Unit := ExceptT.mk fun j => do
  let (r, w) ← ops.wait j.writer
  pure (r, { j with writer := w })

/-- Gives a batch to the writer. -/
def write (ops : Writer ω τ) (b : Batch) : Stage ω τ Unit := ExceptT.mk fun j => do
  let (r, w) ← ops.write b j.writer
  pure (r.toExcept, { j with writer := w })

/-- Lets the policy commit what has been acknowledged. -/
def settle (ops : Writer ω τ) : Stage ω τ Unit := ExceptT.mk fun j => do
  let (r, p) ← j.policy.settle (ops.progress j.writer)
  pure (r, { j with policy := p })

/-- A batch as the log shows it. -/
def batchText (b : Batch) : String := s!"batch {b.seq} ({b.records} records, {b.size} bytes)"

/-- Writes the batches that were filled, each after the one before it has been settled. -/
def feed (ops : Writer ω τ) : List Filled → Stage ω τ Unit
  | [] => pure ()
  | f :: fs => do
    reach f.taken
    say s!"writing {batchText f.batch}"
    wait ops
    settle ops
    write ops f.batch
    feed ops fs

/-- Writes the last batch, if it has records. -/
def flush (ops : Writer ω τ) (b : Batch) : Stage ω τ Unit :=
  if b.isEmpty then pure ()
  else do
    say s!"flushing {batchText b}"
    write ops b

/-- Writes all batches and settles them. A record that cannot be written ends the insert after the batches before it. -/
def drive (ops : Writer ω τ) (c : Cut) : Stage ω τ Unit := do
  feed ops c.filled
  reach c.taken
  match c.ending with
  | .failed e => throw (.serialization e)
  | .rest b => flush ops b
  wait ops
  settle ops

end Stages

section Ending

variable {ω τ κ α : Type} [Target τ κ]

/-- The first failure counts; a further one is only logged. -/
def preferFirst (what : String) : Except BulkError α → Except BulkError Unit → Act τ (Except BulkError α)
  | .ok a, .ok () => pure (.ok a)
  | .ok _, .error e => pure (.error e)
  | .error e, .ok () => pure (.error e)
  | .error e, .error ignored => do
    Act.note (line .warn s!"{what} also failed: {ignored.message}")
    pure (.error e)

theorem preferFirst_error (what : String) (e : BulkError) (r : Except BulkError Unit) (t : τ) :
    (preferFirst (α := α) what (.error e) r t).value = .error e := by
  cases r <;> rfl

/-- How a result counts for the transaction policy. -/
def outcome : Except BulkError α → Outcome
  | .ok _ => .success
  | .error _ => .failure

/-- The line that reports an insert and how long it took. -/
def report (table : String) (p : Progress) : LogLine :=
  { level := .info
    origin := .insert
    text := s!"inserted {p.records} records into `{table}` in {p.batches} batches ({p.bytes} bytes, "
    afterDuration := some ")" }

/-- Sends the batches through a writer and ends the insert. -/
def run (table : String) (ops : Writer ω τ) (w : ω) (p : Policy) (c : Cut) : Act τ InsertReport := do
  let (driven, job) ← drive ops c { writer := w, policy := p }
  let (closed, w) ← ops.close job.writer
  let progress := ops.progress w
  let written ← preferFirst "channel close" driven closed
  let settled ← (job.policy.observe progress).close (outcome written)
  let final ← preferFirst "transaction close" written settled
  match final with
  | .error e => pure ⟨.error e, job.taken⟩
  | .ok () =>
    Act.note (report table progress)
    pure ⟨.ok progress, job.taken⟩

end Ending

end Insert

section All

variable {ρ τ κ : Type}

/-- Inserts the records, in order, with `background` for an insert whose writer works in the background. -/
def insertWith [Target τ κ] (background : ChannelWriter κ → Policy → Cut → Act τ InsertReport) (s : Schema ρ)
    (o : Options) (records : List ρ) : Act τ InsertReport := do
  Act.note (Insert.line .debug s!"bulk insert for `{s.table}` ({s.columns.length} columns), config {o.describe}")
  let format ← Act.ask Target.format
  let header := statement format s
  let size := o.effectiveBatchSize format
  Act.note (Insert.line .debug s!"bulk header for `{s.table}`: {header}")
  Act.note (Insert.line .debug s!"batch size: {size} bytes")
  match ← Target.openChannel with
  | .error e => pure ⟨.error (.channelAcquisition e), 0⟩
  | .ok channel =>
    let writer : ChannelWriter κ := { channel := channel, header := header, strict := o.errorOnMissingRow }
    match ← Policy.acquire o with
    | .error e =>
      let (closed, _) ← writer.close
      match closed with
      | .error ce => Act.note (Insert.line .warn s!"closing bulk channel after failed policy setup: {ce.message}")
      | .ok () => pure ()
      pure ⟨.error e, 0⟩
    | .ok policy =>
      let cut := cutRecords s format size records
      if o.concurrent then background writer policy cut
      else Insert.run s.table ChannelWriter.ops writer policy cut

/-- Inserts the records, in order. A writer in the background works as soon as it is given a batch. -/
def insertAll [Target τ κ] (s : Schema ρ) (o : Options) (records : List ρ) : Act τ InsertReport :=
  let ops : Writer (ChannelWriter κ) τ := ChannelWriter.ops
  insertWith (fun w p c => Insert.run s.table (Pipelined.ops ops) (Pipelined.spawn ops w) p c) s o records

end All

end BulkLoad
