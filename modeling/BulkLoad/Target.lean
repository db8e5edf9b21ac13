import BulkLoad.Effect
import BulkLoad.Error

/-!
# Targets

What a bulk insert needs of a database connection: transaction control and a channel for bulk statements
(class `Target`). A statement that is sent through a channel runs in the transaction of its connection.
-/

namespace BulkLoad

/-- How a database acknowledges a bulk statement. -/
structure Ack where
  rows : Nat
  /-- Rows that the server skipped. -/
  warnings : Nat
deriving DecidableEq, Repr

/-- What becomes of a bulk statement. -/
inductive SendResult
  | acked (a : Ack)
  | refused (e : DriverError)
  /-- The channel broke down and gives no answer any more. -/
  | crashed
deriving DecidableEq, Repr

/-- A connection with states `τ` and bulk channels `κ`. -/
class Target (τ : Type) (κ : outParam Type) where
  /-- The payload grammar of the channels. -/
  format : τ → Format
  /-- Is every statement committed as soon as it has run? -/
  autocommit : τ → Bool
  setAutocommit : Bool → Act τ (Except DriverError Unit)
  commit : Act τ (Except DriverError Unit)
  rollback : Act τ (Except DriverError Unit)
  openChannel : Act τ (Except DriverError κ)
  /-- Runs the statement with its payload and waits for the answer. -/
  send : κ → (header : String) → (payload : Bytes) → Act τ SendResult
  closeChannel : κ → Act τ (Except DriverError Unit)

end BulkLoad
