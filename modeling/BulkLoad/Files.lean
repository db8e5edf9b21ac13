import BulkLoad.Text.Bytes

/-!
# Files

What a command finds at a path (`FileState`), and why it cannot read a file (`FileFault`). A folder can be opened as a
file can, and fails when it is read.

- `FileState.text_file`: the text of a file is its content, read as UTF-8.
-/

namespace BulkLoad

/-- What is found at a path. -/
inductive FileState
  | missing
  | folder
  | file (content : Bytes)
deriving DecidableEq, Repr

/-- Why a file cannot be read as text. -/
inductive FileFault
  | missing
  | folder
  | notText
deriving DecidableEq, Repr

/-- What a command finds at each path that it is told. -/
abbrev Files := String → FileState

/-- The text of a file. -/
def FileState.text : FileState → Except FileFault String
  | missing => .error .missing
  | folder => .error .folder
  | file content =>
    match Bytes.text? content with
    | none => .error .notText
    | some s => .ok s

theorem FileState.text_file {content : Bytes} {s : String} (h : Bytes.text? content = some s) :
    (FileState.file content).text = .ok s := by
  rw [text, h]

end BulkLoad
