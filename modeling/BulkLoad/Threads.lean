import BulkLoad.Insert
import BulkLoad.Journal
import BulkLoad.Writer.Handoff

/-!
# Inserts with two threads

An insert whose channel writer works in a thread of its own. The producer drives the insert and holds the pipelined
writer (`Remote`), the worker takes batches and sends them. A schedule tells how the threads interleave: before each of
its steps the producer pauses for as many steps of the worker as the schedule says (`Threads.pause`), and where it has to
wait, the worker goes on until it need not (`Threads.block`). Sends of the worker begin and end in steps of their own,
and so do the calls of the producer, so that calls of the two threads may overlap. The beginnings and ends of all calls
are recorded (`Mark`). The log is not. Starting the worker does not fail.

The stages of the insert are those of `insertAll`, and only the writer in the background is another one (`insertWith`).
-/

namespace BulkLoad

/-! ## Calls that take time -/

/-- The beginning or the end of a call. -/
inductive Mark
  | begins (call : TargetCall)
  | ends (answer : Answer)
deriving DecidableEq

/-- A call during which nothing else happens. -/
def Made.marks (m : Made) : List Mark := [.begins m.call, .ends m.answer]

/-- The two threads and the target. -/
structure Threads (κ τ : Type) where
  target : τ
  marks : List Mark := []
  /-- The worker, as long as there is one. -/
  worker : Option (WorkerLoop (ChannelWriter κ)) := none
  /-- Has the worker begun to send the batch that it holds? -/
  sending : Bool := false
  /-- Where the worker leaves its answers. -/
  slot : Option Reply := none
  /-- Has the producer let go of the channel to the worker? -/
  released : Bool := false
  /-- The numbers of steps that the worker takes while the producer pauses. -/
  schedule : List Nat := []

namespace Threads

/-! ## The worker -/

section Worker

variable {κ τ : Type} [Target τ κ]

/-- A step of the worker, unless it has to wait. -/
def work (s : Threads κ τ) : Threads κ τ :=
  match s.worker with
  | some (.ready w) => if s.released then { s with worker := some (.finished w) } else s
  | some (.holding w b) =>
    if b.isEmpty then { s with worker := some (.replying w (.done w.progress)) }
    else if s.sending then
      let sent := (Target.send w.channel w.header b.bytes).out s.target
      let judged := w.judge b sent.1
      { s with
        target := sent.2
        marks := s.marks ++ [.ends (.sent sent.1)]
        worker := some (.after (ChannelWriter.ops : Writer (ChannelWriter κ) τ) judged.1 judged.2)
        sending := false }
    else { s with marks := s.marks ++ [.begins (.send w.header b.bytes)], sending := true }
  | some (.replying w r) => if s.slot.isNone then { s with worker := some (.ready w), slot := some r } else s
  | some .unwinding => { s with worker := some .crashed }
  | some .crashed | some (.finished _) | none => s

/-- Steps of the worker. -/
def works : Nat → Threads κ τ → Threads κ τ
  | 0, s => s
  | n + 1, s => works n s.work

/-- The worker goes on until the producer can, for a number of steps at most. -/
def worksUntil (free : Threads κ τ → Bool) : Nat → Threads κ τ → Threads κ τ
  | 0, s => s
  | n + 1, s => if free s then s else worksUntil free n s.work

/-- The producer lets the worker take the steps that are due. -/
def pause : Act (Threads κ τ) Unit :=
  Act.step fun s => ((), { s.works (s.schedule.headD 0) with schedule := s.schedule.tail })

/-- The producer waits until it can go on. A worker that is in the way has to wait itself after four steps. -/
def block (free : Threads κ τ → Bool) : Act (Threads κ τ) Unit := do
  pause
  Act.step fun s => ((), s.worksUntil free 4)

end Worker

/-! ## Calls of the producer -/

section Calls

variable {κ τ α : Type} [Target τ κ]

/-- The producer calls the target. -/
def call (c : TargetCall) (answer : α → Answer) (x : Act τ α) : Act (Threads κ τ) α := do
  pause
  Act.step fun s => ((), { s with marks := s.marks ++ [.begins c] })
  pause
  Act.step fun s =>
    let out := x.out s.target
    (out.1, { s with target := out.2, marks := s.marks ++ [.ends (answer out.1)] })

instance : Target (Threads κ τ) κ where
  format s := Target.format s.target
  autocommit s := Target.autocommit s.target
  setAutocommit on := call (.setAutocommit on) .of (Target.setAutocommit on)
  commit := call .commit .of Target.commit
  rollback := call .rollback .of Target.rollback
  openChannel := call .openChannel .of Target.openChannel
  send channel header payload := call (.send header payload) .sent (Target.send channel header payload)
  closeChannel channel := call .closeChannel .of (Target.closeChannel channel)

end Calls

end Threads

/-! ## The writer of the producer -/

/-- A pipelined writer as the producer holds it: the batch for which an answer is due, and the totals so far. -/
structure Remote where
  pending : Option Ticket := none
  progress : Progress

namespace Remote

variable {κ τ : Type} [Target τ κ]

/-- Starts the worker. -/
def spawn (w : ChannelWriter κ) : Act (Threads κ τ) Remote :=
  Act.step fun s =>
    ({ progress := w.progress },
      { s with worker := some (.ready w), sending := false, slot := none, released := false })

/-- Is there an answer to take, or none to come? -/
def answered (s : Threads κ τ) : Bool := s.slot.isSome || !(s.worker.any WorkerLoop.holdsSlot)

/-- Does the worker take a batch, or will it never? -/
def heard (s : Threads κ τ) : Bool :=
  match s.worker with
  | some (.ready _) => true
  | some l => !l.holdsChannel
  | none => true

/-- Has the worker ended? -/
def ended (s : Threads κ τ) : Bool :=
  match s.worker with
  | some (.finished _) | some .crashed | none => true
  | _ => false

/-- Takes the answer out of the slot. -/
def take (s : Threads κ τ) : Reply × Threads κ τ := (s.slot.getD .lost, { s with slot := none })

/-- Hands a batch over to a worker that is ready for it. -/
def offer (b : Batch) (s : Threads κ τ) : Bool × Threads κ τ :=
  match s.worker with
  | some (.ready w) => (true, { s with worker := some (.holding w b) })
  | _ => (false, s)

/-- Gets the inner writer back from a worker that has finished. -/
def join (s : Threads κ τ) : Option (ChannelWriter κ) × Threads κ τ :=
  match s.worker with
  | some (.finished w) => (some w, { s with worker := none })
  | _ => (none, { s with worker := none })

/-- Waits until there is an answer, and takes it. -/
def await : Act (Threads κ τ) Reply := do
  Threads.block answered
  Act.step take

/-- Holds a batch out until it is taken, or nobody is there to take it. -/
def pass (b : Batch) : Act (Threads κ τ) Bool := do
  Threads.block heard
  Act.step (offer b)

/-- Lets go of the channel, waits until the worker has ended and gets the inner writer back. -/
def retire : Act (Threads κ τ) (Option (ChannelWriter κ)) := do
  Threads.pause
  Act.step fun s => ((), { s with released := true })
  Threads.block ended
  Act.step join

/-- Waits for the answer that is due. -/
def wait (h : Remote) : Act (Threads κ τ) (Except BulkError Unit × Remote) :=
  match h.pending with
  | none => pure (.ok (), h)
  | some _ => do
    let reply ← await
    pure (reply.result, { progress := reply.totals h.progress })

/-- Hands a batch over to the worker. -/
def submit (b : Batch) (h : Remote) : Act (Threads κ τ) (Attempt × Remote) := do
  if ← Act.ask Threads.released then pure (.failed .workerLost, h)
  else if ← pass b then pure (.written, { h with pending := some ⟨b.seq, b.records⟩ })
  else pure (.failed .workerLost, h)

/-- Waits for the answer that is due, then hands the next batch over. -/
def write (b : Batch) (h : Remote) : Act (Threads κ τ) (Attempt × Remote) := do
  let (waited, h) ← h.wait
  match waited with
  | .error e => pure (.failed e, h)
  | .ok () => if b.isEmpty then pure (.written, h) else h.submit b

/-- Waits for the answer that is due, ends the worker and closes the inner writer. -/
def close (h : Remote) : Act (Threads κ τ) (Except BulkError Unit × Remote) := do
  let (waited, h) ← h.wait
  if ← Act.ask Threads.released then pure (waited, h)
  else match ← retire with
    | some w =>
      let (closed, _) ← w.close
      pure (waited.bind fun _ => closed, h)
    | none => pure (waited.bind fun _ => .error .workerLost, h)

/-- The operations of the writer of the producer. -/
def ops : Writer Remote (Threads κ τ) where
  write := write
  wait := wait
  close := close
  progress := Remote.progress

end Remote

/-! ## The insert -/

/-- Inserts the records, in order, with two threads if the options ask for them. -/
def insertThreaded {ρ τ κ : Type} [Target τ κ] (s : Schema ρ) (o : Options) (records : List ρ) :
    Act (Threads κ τ) InsertReport :=
  insertWith (fun w p c => do
    let h ← Remote.spawn w
    Insert.run s.table Remote.ops h p c) s o records

end BulkLoad
