import BulkLoad.Writer.Pipelined

/-!
# The hand-off between the threads

A pipelined writer and its worker, step by step. The producer calls the writer; the worker owns the inner writer, takes
batches, writes them and answers. Batches pass through a channel without room, where both sides have to meet. Answers
pass through a slot with room for one. A breakdown of the inner writer ends the worker, which lets go first of the slot
and then of the channel. The writer is not dropped before its calls are made.

Each side is at one place in its work at a time (`Phase`, `WorkerLoop`), and either may take the next step
(`Handoff.Produces`, `Handoff.Works`), so that a run of steps is one way in which the threads interleave. The batches
that the worker takes, those that the inner writer gets and the calls that return are recorded in their order.

`replay` makes the same calls on a writer whose inner writer runs as soon as it gets a batch.

- `length_replay`: every call that is replayed returns.
-/

namespace BulkLoad

variable {ω τ : Type}

/-! ## Calls -/

/-- A call of the producer. -/
inductive WriterCall
  | write (b : Batch)
  | wait
  | close
deriving DecidableEq

/-- A call that has returned. -/
structure Exchange where
  call : WriterCall
  /-- The answer to the batch before, if it was still due. -/
  answer : Option Reply
  result : Except BulkError Unit

/-- The batch that a call has passed on to the worker. -/
def Exchange.passed? (e : Exchange) : Option Batch :=
  match e.call, e.result with
  | .write b, .ok () => if b.isEmpty then none else some b
  | _, _ => none

/-- What waiting for an answer gives. -/
def Reply.result : Reply → Except BulkError Unit
  | .done _ => .ok ()
  | .failed e => .error e
  | .lost => .error .workerLost

/-- The totals once an answer has been taken. -/
def Reply.totals (before : Progress) : Reply → Progress
  | .done progress => progress
  | _ => before

/-- What waiting gives, where no answer may be due. -/
def waitedFor (answer : Option Reply) : Except BulkError Unit := answer.elim (.ok ()) Reply.result

/-- The answer to a batch, where the inner writer has the totals `progress` afterwards. -/
def Attempt.reply (progress : Progress) : Attempt → Reply
  | .written => .done progress
  | .failed e => .failed e
  | .crashed => .lost

/-! ## Calls one after the other -/

/-- Makes a call on a pipelined writer. -/
def WriterCall.run (inner : Writer ω τ) (p : Pipelined ω) : WriterCall → Act τ (Except BulkError Unit × Pipelined ω)
  | .write b => do
    let (attempt, p) ← p.write inner b
    pure (attempt.toExcept, p)
  | .wait => p.wait
  | .close => p.close inner

/-- The answer that is due. -/
def Pipelined.answer? (p : Pipelined ω) : Option Reply := p.pending.map PendingWrite.reply

/-- The calls on a pipelined writer, each with the answer it takes and its result. -/
def replay (inner : Writer ω τ) (p : Pipelined ω) (t : τ) : List WriterCall → List Exchange
  | [] => []
  | q :: qs =>
    let out := (q.run inner p).out t
    ⟨q, p.answer?, out.1.1⟩ :: replay inner out.1.2 out.2 qs

theorem length_replay (inner : Writer ω τ) : ∀ (qs : List WriterCall) (p : Pipelined ω) (t : τ),
    (replay inner p t qs).length = qs.length
  | [], _, _ => rfl
  | _ :: qs, _, _ => congrArg (· + 1) (length_replay inner qs _ _)

/-! ## Both sides -/

/-- Where the producer is in a call. -/
inductive Phase
  | idle
  /-- It waits for the answer to the batch before. -/
  | receiving (q : WriterCall)
  /-- It has waited, and taken an answer if one was due. -/
  | waited (q : WriterCall) (answer : Option Reply)
  /-- It holds out a batch to the worker. -/
  | offering (b : Batch) (answer : Option Reply)
  /-- The worker has taken the batch. -/
  | handed (b : Batch) (answer : Option Reply)
  /-- It has let go of the channel and waits for the worker to end. -/
  | joining (answer : Option Reply)

/-- Where the worker is. -/
inductive WorkerLoop (ω : Type)
  | ready (w : ω)
  /-- It has taken a batch that it has not written yet. -/
  | holding (w : ω) (b : Batch)
  /-- It is about to answer. -/
  | replying (w : ω) (r : Reply)
  /-- The inner writer broke down, and the worker has let go of the slot. -/
  | unwinding
  /-- It has let go of the channel as well. -/
  | crashed
  /-- It has ended because the producer let go of the channel. -/
  | finished (w : ω)

namespace WorkerLoop

/-- Does the worker still hold the slot? -/
def holdsSlot : WorkerLoop ω → Bool
  | ready _ | holding _ _ | replying _ _ => true
  | unwinding | crashed | finished _ => false

/-- Does the worker still hold the channel? -/
def holdsChannel : WorkerLoop ω → Bool
  | ready _ | holding _ _ | replying _ _ | unwinding => true
  | crashed | finished _ => false

/-- The worker after the inner writer has returned or broken down. -/
def after (inner : Writer ω τ) (attempt : Attempt) (w : ω) : WorkerLoop ω :=
  match attempt with
  | .crashed => unwinding
  | attempt => replying w (attempt.reply (inner.progress w))

end WorkerLoop

/-- The number and size of the batch under way. -/
structure Ticket where
  seq : Nat
  records : Nat

/-- The state of both sides, of the channels between them and of the target, and what has happened so far. -/
structure Handoff (ω τ : Type) where
  /-- The calls that the producer has yet to make. -/
  todo : List WriterCall
  phase : Phase := .idle
  pending : Option Ticket := none
  progress : Progress
  /-- Has the producer let go of the channel? -/
  closed : Bool := false
  worker : WorkerLoop ω
  slot : Option Reply := none
  target : τ
  /-- The batches that the worker has taken. -/
  taken : List Batch := []
  /-- The batches that the inner writer has got, each with the answer to it. -/
  written : List (Batch × Reply) := []
  returned : List Exchange := []

namespace Handoff

/-- A writer that has just been spawned, and the calls to make. -/
def start (inner : Writer ω τ) (w : ω) (t : τ) (calls : List WriterCall) : Handoff ω τ :=
  { todo := calls, progress := inner.progress w, worker := .ready w, target := t }

/-- The state after a call has returned. -/
def complete (s : Handoff ω τ) (q : WriterCall) (answer : Option Reply) (result : Except BulkError Unit) : Handoff ω τ :=
  { s with phase := .idle, returned := s.returned ++ [⟨q, answer, result⟩] }

/-- The steps of the producer. The rendezvous is a step of both sides. -/
inductive Produces (inner : Writer ω τ) : Handoff ω τ → Handoff ω τ → Prop
  /-- A call begins, and no answer is due. -/
  | call {s : Handoff ω τ} {q : WriterCall} {qs : List WriterCall} :
      s.phase = .idle → s.todo = q :: qs → s.pending = none →
        Produces inner s { s with todo := qs, phase := .waited q none }
  /-- A call begins, and has to wait for an answer. -/
  | expect {s : Handoff ω τ} {q : WriterCall} {qs : List WriterCall} {k : Ticket} :
      s.phase = .idle → s.todo = q :: qs → s.pending = some k →
        Produces inner s { s with todo := qs, phase := .receiving q, pending := none }
  | receive {s : Handoff ω τ} {q : WriterCall} {r : Reply} :
      s.phase = .receiving q → s.slot = some r →
        Produces inner s { s with phase := .waited q (some r), slot := none, progress := r.totals s.progress }
  /-- The slot is empty, and the worker has let go of it. -/
  | disconnect {s : Handoff ω τ} {q : WriterCall} :
      s.phase = .receiving q → s.slot = none → s.worker.holdsSlot = false →
        Produces inner s { s with phase := .waited q (some .lost) }
  | acknowledged {s : Handoff ω τ} {a : Option Reply} :
      s.phase = .waited .wait a → Produces inner s (s.complete .wait a (waitedFor a))
  /-- The batch before has failed, so that the next one is not passed on. -/
  | refuse {s : Handoff ω τ} {b : Batch} {a : Option Reply} {e : BulkError} :
      s.phase = .waited (.write b) a → waitedFor a = .error e → Produces inner s (s.complete (.write b) a (.error e))
  | skip {s : Handoff ω τ} {b : Batch} {a : Option Reply} :
      s.phase = .waited (.write b) a → waitedFor a = .ok () → b.isEmpty = true →
        Produces inner s (s.complete (.write b) a (.ok ()))
  | writeClosed {s : Handoff ω τ} {b : Batch} {a : Option Reply} :
      s.phase = .waited (.write b) a → waitedFor a = .ok () → b.isEmpty = false → s.closed = true →
        Produces inner s (s.complete (.write b) a (.error .workerLost))
  | offer {s : Handoff ω τ} {b : Batch} {a : Option Reply} :
      s.phase = .waited (.write b) a → waitedFor a = .ok () → b.isEmpty = false → s.closed = false →
        Produces inner s { s with phase := .offering b a }
  | rendezvous {s : Handoff ω τ} {b : Batch} {a : Option Reply} {w : ω} :
      s.phase = .offering b a → s.worker = .ready w →
        Produces inner s { s with phase := .handed b a, worker := .holding w b, taken := s.taken ++ [b] }
  /-- The worker has let go of the channel, so that nobody will take the batch. -/
  | unheard {s : Handoff ω τ} {b : Batch} {a : Option Reply} :
      s.phase = .offering b a → s.worker.holdsChannel = false →
        Produces inner s (s.complete (.write b) a (.error .workerLost))
  | pass {s : Handoff ω τ} {b : Batch} {a : Option Reply} :
      s.phase = .handed b a →
        Produces inner s { s.complete (.write b) a (.ok ()) with pending := some ⟨b.seq, b.records⟩ }
  | letGo {s : Handoff ω τ} {a : Option Reply} :
      s.phase = .waited .close a → s.closed = false →
        Produces inner s { s with phase := .joining a, closed := true }
  | closeAgain {s : Handoff ω τ} {a : Option Reply} :
      s.phase = .waited .close a → s.closed = true → Produces inner s (s.complete .close a (waitedFor a))
  /-- The worker has ended and given the inner writer back, which is closed then. -/
  | join {s : Handoff ω τ} {a : Option Reply} {w : ω} :
      s.phase = .joining a → s.worker = .finished w →
        Produces inner s
          { s.complete .close a ((waitedFor a).bind fun _ => ((inner.close w).out s.target).1.1) with
            target := ((inner.close w).out s.target).2 }
  | joinCrashed {s : Handoff ω τ} {a : Option Reply} :
      s.phase = .joining a → s.worker = .crashed →
        Produces inner s (s.complete .close a ((waitedFor a).bind fun _ => .error .workerLost))

/-- The steps of the worker. -/
inductive Works (inner : Writer ω τ) : Handoff ω τ → Handoff ω τ → Prop
  /-- The inner writer gets the batch. -/
  | write {s : Handoff ω τ} {w w' : ω} {b : Batch} {attempt : Attempt} {t : τ} :
      s.worker = .holding w b → (inner.write b w).out s.target = ((attempt, w'), t) →
        Works inner s
          { s with
            worker := .after inner attempt w'
            target := t
            written := s.written ++ [(b, attempt.reply (inner.progress w'))] }
  | reply {s : Handoff ω τ} {w : ω} {r : Reply} :
      s.worker = .replying w r → s.slot = none → Works inner s { s with worker := .ready w, slot := some r }
  /-- The worker finds that the producer has let go of the channel. -/
  | leave {s : Handoff ω τ} {w : ω} :
      s.worker = .ready w → s.closed = true → Works inner s { s with worker := .finished w }
  | unwind {s : Handoff ω τ} : s.worker = .unwinding → Works inner s { s with worker := .crashed }

/-- A step of either side. -/
def Step (inner : Writer ω τ) (s s' : Handoff ω τ) : Prop := Produces inner s s' ∨ Works inner s s'

end Handoff

end BulkLoad
