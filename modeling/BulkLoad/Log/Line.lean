/-!
# Log lines

A line of the log has a level, the part of the program it comes from and a text. The lines that report a duration leave
room for it at the end (`LogLine.textWith`); everything else in a line is known when it is written.
-/

namespace BulkLoad

/-- How much a line matters, from the gravest to the most detailed. -/
inductive Level
  | error
  | warn
  | info
  | debug
  | trace
deriving DecidableEq, Repr

namespace Level

/-- The place of a level in the order of rising detail. -/
def rank : Level → Nat
  | error => 1
  | warn => 2
  | info => 3
  | debug => 4
  | trace => 5

/-- The name of a level. -/
def name : Level → String
  | error => "ERROR"
  | warn => "WARN"
  | info => "INFO"
  | debug => "DEBUG"
  | trace => "TRACE"

instance : LE Level := ⟨fun a b => a.rank ≤ b.rank⟩

instance (a b : Level) : Decidable (a ≤ b) := inferInstanceAs (Decidable (a.rank ≤ b.rank))

/-- The more detailed of two levels. -/
def max (a b : Level) : Level := if a ≤ b then b else a

theorem le_max_left (a b : Level) : a ≤ max a b := by cases a <;> cases b <;> decide

theorem le_max_right (a b : Level) : b ≤ max a b := by cases a <;> cases b <;> decide

end Level

/-- The part of the program that writes a line. -/
inductive Origin
  | insert
  | writer
  | pipeline
  | transaction
  | catalog
  | connection
  | loadCommand
  | renderCommand
deriving DecidableEq, Repr

/-- The path under which log directives address a part of the program. -/
def Origin.path : Origin → String
  | insert => "fleetload_engine::insert"
  | writer => "fleetload_engine::writer"
  | pipeline => "fleetload_engine::pipelined"
  | transaction => "fleetload_engine::transaction"
  | catalog => "fleetload_memdb::catalog"
  | connection => "fleetload_memdb::connection"
  | loadCommand => "fleetload::commands::load"
  | renderCommand => "fleetload::commands::render"

/-- A line of the log. -/
structure LogLine where
  level : Level
  origin : Origin
  text : String
  /-- What follows the duration in the text, for a line that reports one. -/
  afterDuration : Option String := none
  /-- Written while a batch was being sent in the background. -/
  inBackground : Bool := false
deriving DecidableEq, Repr

namespace LogLine

/-- The text of a line, with the duration it reports. -/
def textWith (duration : String) (line : LogLine) : String :=
  match line.afterDuration with
  | none => line.text
  | some tail => line.text ++ duration ++ tail

/-- The name of the thread that writes the line. -/
def thread (line : LogLine) : String := if line.inBackground then "fleetload-writer" else "main"

/-- The line as it is shown behind its time stamp. -/
def render (duration : String) (line : LogLine) : String :=
  line.level.name ++ " [" ++ line.origin.path ++ "] (" ++ line.thread ++ ") " ++ line.textWith duration

end LogLine

end BulkLoad
