import BulkLoad.Target

/-!
# Journals

A target is wrapped with a journal of the calls that it gets (`Journaled`). Each call is kept with what is passed to it
and with the answer to it, in the order of the calls. Keeping the journal changes nothing in what the target does.
-/

namespace BulkLoad

/-- A call that a target gets, with what is passed to it. -/
inductive TargetCall
  | openChannel
  | send (header : String) (payload : Bytes)
  | closeChannel
  | setAutocommit (on : Bool)
  | commit
  | rollback
deriving DecidableEq

/-- How a call is answered. -/
inductive Answer
  | done
  | failed (e : DriverError)
  /-- The answer to a statement. -/
  | sent (r : SendResult)
deriving DecidableEq

/-- The answer to a call that gives a result or fails. -/
def Answer.of {α : Type} : Except DriverError α → Answer
  | .ok _ => done
  | .error e => failed e

/-- A call that has returned. -/
structure Made where
  call : TargetCall
  answer : Answer
deriving DecidableEq

/-- A target and the calls that it has got so far, in their order. -/
structure Journaled (τ : Type) where
  target : τ
  made : List Made := []

namespace Journaled

variable {τ κ α : Type} [Target τ κ]

/-- Passes a call on and keeps it with the answer to it. -/
def record (call : TargetCall) (answer : α → Answer) (x : Act τ α) : Act (Journaled τ) α := fun t =>
  let e := x t.target
  ⟨e.value, ⟨e.state, t.made ++ [⟨call, answer e.value⟩]⟩, e.log⟩

instance : Target (Journaled τ) κ where
  format t := Target.format t.target
  autocommit t := Target.autocommit t.target
  setAutocommit on := record (.setAutocommit on) .of (Target.setAutocommit on)
  commit := record .commit .of Target.commit
  rollback := record .rollback .of Target.rollback
  openChannel := record .openChannel .of Target.openChannel
  send channel header payload := record (.send header payload) .sent (Target.send channel header payload)
  closeChannel channel := record .closeChannel .of (Target.closeChannel channel)

end Journaled

end BulkLoad
