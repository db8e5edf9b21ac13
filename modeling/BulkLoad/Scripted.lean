import BulkLoad.Target

/-!
# Scripted targets

A target that answers as a script says and keeps a journal of the calls it gets. The script tells which of the calls
for transaction control fail, by their numbers, and how each send is answered; by default a send is acknowledged with
one row for each line feed of its payload.

- `Scripted.autocommit_of_failing`: a call that fails leaves the mode as it was.
-/

namespace BulkLoad

/-- What a script says about a send. -/
inductive SendScript
  | ack (rows warnings : Option Nat)
  | refuse (e : DriverError)
  | crash
deriving DecidableEq

/-- The answers of a scripted target. -/
structure Script where
  format : Format := .copy
  openFault : Option DriverError := none
  closeFault : Option DriverError := none
  /-- The numbers, from one, of the failing calls. -/
  failingSwitches : List Nat := []
  failingCommits : List Nat := []
  failingRollbacks : List Nat := []
  /-- The answers to the sends in order; later sends are acknowledged. -/
  sends : List SendScript := []

/-- A call that a target gets. -/
inductive Call
  | openChannel
  | send (number : Nat)
  | closeChannel
  | setAutocommit (on : Bool)
  | commit
  | rollback
deriving DecidableEq

/-- A call, and whether it was refused. Sends and the closing of the channel are noted when they start. -/
structure Event where
  call : Call
  failed : Bool := false
deriving DecidableEq

/-- A statement that was sent. -/
structure Sent where
  header : String
  payload : Bytes
deriving DecidableEq

/-- A scripted target: its mode, and its journal with the newest entries first. -/
structure Scripted where
  script : Script
  autocommit : Bool := true
  events : List Event := []
  sent : List Sent := []

namespace Scripted

/-- How often a call of a kind has been noted. -/
def callCount (t : Scripted) (isKind : Call → Bool) : Nat := (t.events.filter fun e => isKind e.call).length

/-- A call for a switch of the mode. -/
def isSwitch : Call → Bool
  | .setAutocommit _ => true
  | _ => false

/-- The target with one more event. -/
def journal (t : Scripted) (e : Event) : Scripted := { t with events := e :: t.events }

/-- The complaint of a refused call. -/
def refusal (name : String) (number : Nat) : DriverError := { kind := .other, message := s!"{name} {number} refused" }

/-- Notes a call that fails or does something, by its number among the calls of its kind. -/
def control (name : String) (call : Call) (isKind : Call → Bool) (failing : List Nat) (run : Scripted → Scripted)
    (t : Scripted) : Effect Scripted (Except DriverError Unit) :=
  let number := t.callCount isKind + 1
  if number ∈ failing then ⟨.error (refusal name number), t.journal ⟨call, true⟩, []⟩
  else ⟨.ok (), run (t.journal ⟨call, false⟩), []⟩

/-- Switches the mode. -/
def setAutocommit (on : Bool) : Act Scripted (Except DriverError Unit) := fun t =>
  t.control "set_autocommit" (.setAutocommit on) isSwitch t.script.failingSwitches fun t => { t with autocommit := on }

/-- Commits. -/
def commit : Act Scripted (Except DriverError Unit) := fun t =>
  t.control "commit" .commit (· == .commit) t.script.failingCommits id

/-- Rolls back. -/
def rollback : Act Scripted (Except DriverError Unit) := fun t =>
  t.control "rollback" .rollback (· == .rollback) t.script.failingRollbacks id

/-- Opens the channel, or refuses without a note. -/
def openChannel : Act Scripted (Except DriverError Unit) := fun t =>
  match t.script.openFault with
  | some e => ⟨.error e, t, []⟩
  | none => ⟨.ok (), t.journal ⟨.openChannel, false⟩, []⟩

/-- Closes the channel; the call is noted also when it fails. -/
def closeChannel : Act Scripted (Except DriverError Unit) := fun t =>
  match t.script.closeFault with
  | some e => ⟨.error e, t.journal ⟨.closeChannel, false⟩, []⟩
  | none => ⟨.ok (), t.journal ⟨.closeChannel, false⟩, []⟩

/-- The result of a send by its script. -/
def sendResult (script : SendScript) (payload : Bytes) : SendResult :=
  match script with
  | .ack rows warnings => .acked ⟨rows.getD (payload.count Bytes.lineFeed), warnings.getD 0⟩
  | .refuse e => .refused e
  | .crash => .crashed

/-- Runs a statement. -/
def send (header : String) (payload : Bytes) : Act Scripted SendResult := fun t =>
  let number := t.sent.length + 1
  ⟨sendResult ((t.script.sends[t.sent.length]?).getD (.ack none none)) payload,
    { t.journal ⟨.send number, false⟩ with sent := ⟨header, payload⟩ :: t.sent }, []⟩

instance : Target Scripted Unit where
  format t := t.script.format
  autocommit t := t.autocommit
  setAutocommit := setAutocommit
  commit := commit
  rollback := rollback
  openChannel := openChannel
  send _ header payload := send header payload
  closeChannel _ := closeChannel

theorem autocommit_of_failing {on : Bool} {t : Scripted} (h : t.callCount isSwitch + 1 ∈ t.script.failingSwitches) :
    (setAutocommit on t).state.autocommit = t.autocommit := by
  simp [setAutocommit, control, h, journal]

end Scripted

end BulkLoad
