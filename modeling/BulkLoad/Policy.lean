import BulkLoad.Options
import BulkLoad.Target

/-!
# Transaction policies

A policy decides on commits and rollbacks for one insert. Under autocommit every batch is a transaction of its own: the
database commits each statement by itself or, when skipped rows count as failures, the policy commits each batch after
the writer has accepted its acknowledgement. A long transaction covers the whole insert. In the end a policy gives the
connection its old mode back, except after a long transaction that is left open.

- `Policy.settle_of_committed`: when every batch has been committed, there is nothing to settle;
- `Policy.settle_of_long`: a long transaction commits nothing before its end;
- `Policy.close_eq`: a policy that has been closed does nothing more when it is given up.
-/

namespace BulkLoad

/-- How an insert ended. -/
inductive Outcome
  | success
  | failure
deriving DecidableEq, Repr

/-- The name of an outcome. -/
def Outcome.name : Outcome → String
  | success => "Success"
  | failure => "Failure"

/-- Which transactions a policy makes. -/
inductive PolicyMode
  /-- The database commits every statement. -/
  | autocommit
  /-- The policy commits every batch; `committed` batches are. -/
  | perBatch (committed : Nat)
  /-- One transaction, which is committed in the end or left open. -/
  | longTransaction (commitOnClose : Bool)
deriving DecidableEq, Repr

/-- The transaction policy of an insert. -/
structure Policy where
  mode : PolicyMode
  /-- The autocommit mode of the connection before the insert. -/
  previous : Bool
  batches : Nat := 0
  /-- Has the policy been closed? -/
  settled : Bool := false
deriving DecidableEq, Repr

namespace Policy

variable {τ κ : Type} [Target τ κ]

/-- A line of the log about a transaction. -/
def line (level : Level) (text : String) : LogLine := { level := level, origin := .transaction, text := text }

/-- Switches the autocommit mode. -/
def switch (on : Bool) : Act τ (Except BulkError Unit) := do
  let r ← Target.setAutocommit on
  pure (r.mapError .transaction)

/-- Switches the autocommit mode if it is not the wanted one. -/
def switchTo (on : Bool) : Act τ (Except BulkError Unit) := do
  if (← Act.ask Target.autocommit) = on then pure (.ok ()) else switch on

/-- Prepares the connection for a long transaction. -/
def beginLong (commitOnClose : Bool) : Act τ (Except BulkError Policy) := do
  let previous ← Act.ask Target.autocommit
  let r ← switchTo false
  pure (r.map fun _ => { mode := .longTransaction commitOnClose, previous := previous })

/-- Prepares the connection for a transaction for each batch. A transaction that is open on the connection is committed
by switching to autocommit. -/
def beginEach (checked : Bool) : Act τ (Except BulkError Policy) := do
  let previous ← Act.ask Target.autocommit
  match ← switchTo true with
  | .error e => pure (.error e)
  | .ok () =>
    if checked then do
      let r ← switch false
      pure (r.map fun _ => { mode := .perBatch 0, previous := previous })
    else pure (.ok { mode := .autocommit, previous := previous })

/-- Prepares the connection for the policy that the options ask for. -/
def acquire (o : Options) : Act τ (Except BulkError Policy) :=
  if o.longTransaction then beginLong o.commitOnClose else beginEach o.errorOnMissingRow

/-- Takes note of the number of batches written. -/
def observe (p : Policy) (progress : Progress) : Policy := { p with batches := progress.batches }

/-- Commits the batches that have been accepted since the last commit. -/
def settle (progress : Progress) (p : Policy) : Act τ (Except BulkError Unit × Policy) :=
  let p := p.observe progress
  match p.mode with
  | .perBatch committed =>
    if p.batches = committed then pure (.ok (), p)
    else do
      Act.note (line .debug s!"committing batch {p.batches}")
      match ← Target.commit with
      | .error e => pure (.error (.transaction e), p)
      | .ok () => pure (.ok (), { p with mode := .perBatch p.batches })
  | _ => pure (.ok (), p)

theorem settle_of_committed {p : Policy} {progress : Progress} (h : p.mode = .perBatch progress.batches) (t : τ) :
    p.settle progress t = ⟨(.ok (), p.observe progress), t, []⟩ := by
  simp [settle, observe, h, pure]

theorem settle_of_long {p : Policy} {commitOnClose : Bool} (h : p.mode = .longTransaction commitOnClose)
    (progress : Progress) (t : τ) : p.settle progress t = ⟨(.ok (), p.observe progress), t, []⟩ := by
  simp [settle, observe, h, pure]

/-- Gives a connection that was in autocommit its mode back after a long transaction. -/
def restoreLong (p : Policy) : Act τ (Except BulkError Unit) := if p.previous then switch true else pure (.ok ())

/-- Ends a policy with a transaction for each batch. -/
def closeEach (p : Policy) (outcome : Outcome) : Act τ (Except BulkError Unit) := do
  Act.note (line .debug s!"autocommit policy closing after {p.batches} batches ({outcome.name})")
  match p.mode, outcome with
  | .perBatch committed, .failure =>
    Act.note (line .debug s!"rolling back the batch after {committed}")
    match ← Target.rollback with
    | .ok () => switchTo p.previous
    | .error e =>
      let r ← switchTo p.previous
      pure (r.bind fun _ => .error (.transaction e))
  | _, _ => switchTo p.previous

/-- Ends a long transaction. -/
def closeLong (p : Policy) (commitOnClose : Bool) : Outcome → Act τ (Except BulkError Unit)
  | .failure => do
    Act.note (line .debug s!"rolling back {p.batches} written batches")
    match ← Target.rollback with
    | .error e => pure (.error (.transaction e))
    | .ok () => p.restoreLong
  | .success =>
    if commitOnClose then do
      Act.note (line .debug s!"committing {p.batches} batches")
      match ← Target.commit with
      | .ok () => p.restoreLong
      | .error e =>
        match ← Target.rollback with
        | .error rb => Act.note (line .warn s!"rollback after failed commit failed: {rb.display}")
        | .ok () => pure ()
        let r ← p.restoreLong
        pure (r.bind fun _ => .error (.transaction e))
    else do
      Act.note (line .debug s!"leaving transaction with {p.batches} batches open for the caller")
      pure (.ok ())

/-- Rolls back for a policy that is given up without being closed. -/
def abandon (what : String) : Act τ Unit := do
  Act.note (line .warn s!"{what} dropped without close; rolling back")
  match ← Target.rollback with
  | .error e => Act.note (line .warn s!"rollback on drop failed: {e.display}")
  | .ok () => pure ()

/-- Gives the policy up. One that has been closed leaves everything as it is. -/
def drop (p : Policy) : Act τ Unit :=
  if p.settled then pure ()
  else match p.mode with
    | .autocommit => pure ()
    | .perBatch _ => abandon "per-batch transaction"
    | .longTransaction _ => abandon "long transaction"

/-- Decides on what is left of the transaction, and gives the connection its mode back. -/
def conclude (p : Policy) (outcome : Outcome) : Act τ (Except BulkError Unit) :=
  match p.mode with
  | .longTransaction commitOnClose => p.closeLong commitOnClose outcome
  | _ => p.closeEach outcome

/-- Ends the policy. It counts as closed before anything is done, whatever fails, and it is given up in the end. -/
def close (p : Policy) (outcome : Outcome) : Act τ (Except BulkError Unit) := do
  let p := { p with settled := true }
  let r ← p.conclude outcome
  p.drop
  pure r

theorem drop_of_settled {p : Policy} (h : p.settled = true) : p.drop = (pure () : Act τ Unit) := by
  rw [drop, if_pos h]

/-- **A policy that has been closed calls and logs nothing more** when it is given up. -/
theorem close_eq (p : Policy) (outcome : Outcome) : p.close outcome = (p.conclude outcome : Act τ _) := by
  have hdrop : Policy.drop { p with settled := true } = (pure () : Act τ Unit) := drop_of_settled rfl
  simp only [close, hdrop, pure_bind, bind_pure]
  rfl

end Policy

end BulkLoad
