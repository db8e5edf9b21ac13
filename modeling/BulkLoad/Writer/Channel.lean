import BulkLoad.Target

/-!
# Writers

A writer takes batches and hands them to a database (`Writer`). The channel writer sends each batch at once and waits
for the answer. A batch counts as written when the database acknowledges it and, for a strict writer, takes all its
rows.

- `ChannelWriter.write_empty`: a batch without records is not sent.
-/

namespace BulkLoad

/-- What becomes of a batch that is given to a writer. -/
inductive Attempt
  | written
  | failed (e : BulkError)
  /-- The writer broke down and can write no more. -/
  | crashed
deriving DecidableEq

/-- A writer that broke down is lost. -/
def Attempt.toExcept : Attempt → Except BulkError Unit
  | written => .ok ()
  | failed e => .error e
  | crashed => .error .workerLost

/-- The operations of a writer with states `ω` on a target with states `τ`. -/
structure Writer (ω τ : Type) where
  /-- Takes a batch for writing. -/
  write : Batch → ω → Act τ (Attempt × ω)
  /-- Waits until every batch taken has been acknowledged. -/
  wait : ω → Act τ (Except BulkError Unit × ω)
  /-- Gives the channel back. -/
  close : ω → Act τ (Except BulkError Unit × ω)
  /-- The totals of the batches known to be written. -/
  progress : ω → Progress

/-- A writer that sends each batch at once through a channel `κ`. -/
structure ChannelWriter (κ : Type) where
  channel : κ
  header : String
  /-- Take rows that the server skips for a failure. -/
  strict : Bool := false
  progress : Progress := {}
  closed : Bool := false

namespace ChannelWriter

variable {τ κ : Type} [Target τ κ]

/-- The failure of a batch. -/
def rejected (w : ChannelWriter κ) (b : Batch) (source : DriverError) : BulkError :=
  .databaseWrite b.seq w.progress source

/-- The complaint about rows that the server skipped. -/
def skippedRows (b : Batch) (a : Ack) : DriverError :=
  { kind := .missingReference
    message := s!"{b.records - a.rows} of {b.records} rows were skipped by the server ({a.warnings} warnings)" }

/-- The warning about rows that the server skipped. -/
def skippedText (b : Batch) (a : Ack) : String :=
  s!"batch {b.seq}: server skipped {b.records - a.rows} of {b.records} rows ({a.warnings} warnings)"

/-- The writer after a batch with an acknowledged number of rows. -/
def accept (w : ChannelWriter κ) (b : Batch) (rows : Nat) : ChannelWriter κ :=
  { w with progress := w.progress.record b rows }

/-- What the writer makes of the answer to a batch. -/
def judge (w : ChannelWriter κ) (b : Batch) : SendResult → Attempt × ChannelWriter κ
  | .crashed => (.crashed, w)
  | .refused e => (.failed (w.rejected b e), w)
  | .acked a =>
    if b.records ≤ a.rows ∨ w.strict = false then (.written, w.accept b a.rows)
    else (.failed (w.rejected b (skippedRows b a)), w)

/-- Sends a batch. -/
def write (b : Batch) (w : ChannelWriter κ) : Act τ (Attempt × ChannelWriter κ) :=
  if b.isEmpty then pure (.written, w)
  else do
    Act.note
      { level := .debug, origin := .writer, text := s!"writing batch {b.seq}: {b.records} records, {b.size} bytes" }
    match ← Target.send w.channel w.header b.bytes with
    | .crashed => pure (.crashed, w)
    | .refused e => pure (.failed (w.rejected b e), w)
    | .acked a =>
      if b.records ≤ a.rows then pure (.written, w.accept b a.rows)
      else if w.strict then pure (.failed (w.rejected b (skippedRows b a)), w)
      else do
        Act.note { level := .warn, origin := .writer, text := skippedText b a }
        pure (.written, w.accept b a.rows)

/-- Closes the channel, once. -/
def close (w : ChannelWriter κ) : Act τ (Except BulkError Unit × ChannelWriter κ) :=
  if w.closed then pure (.ok (), w)
  else do
    let r ← Target.closeChannel w.channel
    pure (r.mapError .channelClose, { w with closed := true })

/-- The operations of a channel writer. It never holds a batch back, so there is nothing to wait for. -/
def ops : Writer (ChannelWriter κ) τ where
  write := write
  wait w := pure (.ok (), w)
  close := close
  progress := ChannelWriter.progress

theorem write_empty {b : Batch} (h : b.isEmpty = true) (w : ChannelWriter κ) (t : τ) :
    write b w t = ⟨(.written, w), t, []⟩ := by
  simp [write, h, pure]

end ChannelWriter

end BulkLoad
