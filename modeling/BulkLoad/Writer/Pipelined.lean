import BulkLoad.Writer.Channel

/-!
# Pipelined writers

A pipelined writer passes each batch to an inner writer that works in the background, so that the next batch can be
built meanwhile. At most one batch is under way: the answer to it is kept in a slot, and whatever comes next (another
batch, waiting or closing) takes it out first. Since nothing is passed on while an answer is due, it makes no
difference when the inner writer runs, and here it runs as soon as it gets the batch.

- `Pipelined.inFlight_wait`: after waiting, no batch is under way.
-/

namespace BulkLoad

/-- The answer of the inner writer to a batch. -/
inductive Reply
  | done (progress : Progress)
  | failed (e : BulkError)
  /-- The inner writer broke down before it answered. -/
  | lost
deriving DecidableEq

/-- The batch that is under way. -/
structure PendingWrite where
  seq : Nat
  records : Nat
  reply : Reply
deriving DecidableEq

/-- The inner writer, as long as there is one. -/
inductive Worker (ω : Type)
  | running (inner : ω)
  | crashed
  /-- The inner writer has been closed. -/
  | stopped

/-- A writer with an inner writer in the background. -/
structure Pipelined (ω : Type) where
  worker : Worker ω
  pending : Option PendingWrite := none
  progress : Progress

namespace Pipelined

variable {ω τ : Type}

/-- Puts a writer into the background. -/
def spawn (inner : Writer ω τ) (w : ω) : Pipelined ω := { worker := .running w, progress := inner.progress w }

/-- The number of the batch under way. -/
def inFlight (p : Pipelined ω) : Option Nat := p.pending.map PendingWrite.seq

/-- Takes the answer to the batch under way. -/
def wait (p : Pipelined ω) : Act τ (Except BulkError Unit × Pipelined ω) :=
  match p.pending with
  | none => pure (.ok (), p)
  | some batch =>
    match batch.reply with
    | .done progress => do
      Act.note { level := .debug, origin := .pipeline, text := s!"batch {batch.seq} acknowledged" }
      pure (.ok (), { p with pending := none, progress := progress })
    | .failed e => pure (.error e, { p with pending := none })
    | .lost => pure (.error .workerLost, { p with pending := none })

/-- Keeps the answer of the inner writer. -/
def receive (inner : Writer ω τ) (p : Pipelined ω) (b : Batch) (attempt : Attempt) (w : ω) : Pipelined ω :=
  match attempt with
  | .written => { p with worker := .running w, pending := some ⟨b.seq, b.records, .done (inner.progress w)⟩ }
  | .failed e => { p with worker := .running w, pending := some ⟨b.seq, b.records, .failed e⟩ }
  | .crashed => { p with worker := .crashed, pending := some ⟨b.seq, b.records, .lost⟩ }

/-- Passes a batch on to the inner writer. -/
def submit (inner : Writer ω τ) (b : Batch) (p : Pipelined ω) : Act τ (Attempt × Pipelined ω) :=
  match p.worker with
  | .running w => do
    let (attempt, w) ← Act.inBackground (inner.write b w)
    Act.note { level := .debug, origin := .pipeline,
               text := s!"batch {b.seq} ({b.records} records) handed to fleetload-writer" }
    pure (.written, p.receive inner b attempt w)
  | _ => pure (.failed .workerLost, p)

/-- Waits for the batch under way, then passes the next one on. A batch without records goes nowhere. -/
def write (inner : Writer ω τ) (b : Batch) (p : Pipelined ω) : Act τ (Attempt × Pipelined ω) := do
  let (waited, p) ← p.wait
  match waited with
  | .error e => pure (.failed e, p)
  | .ok () => if b.isEmpty then pure (.written, p) else p.submit inner b

/-- Waits for the batch under way and closes the inner writer; an earlier failure wins. -/
def close (inner : Writer ω τ) (p : Pipelined ω) : Act τ (Except BulkError Unit × Pipelined ω) := do
  let (waited, p) ← p.wait
  match p.worker with
  | .stopped => pure (waited, p)
  | .crashed => pure (waited.bind fun _ => .error .workerLost, { p with worker := .stopped })
  | .running w => do
    let (closed, _) ← inner.close w
    pure (waited.bind fun _ => closed, { p with worker := .stopped })

/-- The operations of a pipelined writer. -/
def ops (inner : Writer ω τ) : Writer (Pipelined ω) τ where
  write := write inner
  wait := wait
  close := close inner
  progress := Pipelined.progress

theorem inFlight_wait (p : Pipelined ω) (t : τ) : (p.wait t).value.2.inFlight = none := by
  obtain ⟨worker, pending, progress⟩ := p
  cases pending with
  | none => rfl
  | some batch => obtain ⟨seq, records, reply⟩ := batch; cases reply <;> rfl

end Pipelined

end BulkLoad
