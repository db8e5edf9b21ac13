import BulkLoad.Error
import BulkLoad.Input

/-!
# Errors of commands

A command fails with an error of one of its steps. What is shown is a chain of messages, from the outermost to the
cause; the messages of the system and of the JSON reader are causes that are only named (`ErrorText`).
-/

namespace BulkLoad

/-- A message in a chain. -/
inductive ErrorText
  | text (s : String)
  /-- The message of the system about a file. -/
  | system (fault : FileFault)
  /-- The message of the JSON reader. -/
  | json
deriving DecidableEq, Repr

/-- Why a command fails. -/
inductive CommandError
  | columns (e : ColumnSpecError)
  | schema (e : SchemaError)
  | input (e : InputError)
  | configUnreadable (path : String) (fault : FileFault)
  | configInvalid (path : String)
  | create (e : DriverError)
  | serialization (e : SerializationError)
  | loading (path table : String) (e : BulkError)
  | committing (e : DriverError)
  | leaving (e : DriverError)

/-- The chain of messages of an input error. -/
def InputError.chain : InputError → List ErrorText
  | .cannotOpen path => [.text s!"cannot open {path}", .system .missing]
  | .isFolder path => [.text s!"reading {path}", .system .folder]
  | .notText path => [.text s!"reading {path}", .system .notText]
  | .notObject path line => [.text s!"{path}:{line}: not a JSON object", .json]

namespace CommandError

/-- The error of a bulk insert behind a command's failure. -/
def bulk? : CommandError → Option BulkError
  | schema e => some (.schema e)
  | serialization e => some (.serialization e)
  | loading _ _ e => some e
  | _ => none

/-- The chain of messages, outermost first. -/
def chain : CommandError → List ErrorText
  | columns e => [.text e.message]
  | schema e => (BulkError.schema e).chain.map .text
  | input e => e.chain
  | configUnreadable path fault => [.text s!"cannot read {path}", .system fault]
  | configInvalid path => [.text s!"invalid insert options in {path}", .json]
  | create e => [.text e.display]
  | serialization e => (BulkError.serialization e).chain.map .text
  | loading path table e => .text s!"loading {path} into `{table}`" :: e.chain.map .text
  | committing e => [.text "committing the load", .text e.display]
  | leaving e => [.text e.display]

end CommandError

end BulkLoad
