import BulkLoad.Format
import BulkLoad.Number.Integer

/-!
# Command line arguments

A command line names a command, then its options and one input file in any order. An option stands behind two dashes
with its value after an equals sign or in the next argument, or behind one dash with its value right after the letter,
after an equals sign or in the next argument. A value in an argument of its own does not start with a dash, unless it
is nothing else. After `--` every argument is an input.

- `Arguments.Given.setValue_of_given`, `Arguments.Given.addInput_of_given`: an option has one value, and there is one
  input.
-/

namespace BulkLoad

/-- What both commands are told: the table, its columns, the payload grammar, the batch size and the input file. -/
structure TableArguments where
  table : String
  columns : String
  format : Format := .copy
  batchSize : Option Nat := none
  input : String
deriving DecidableEq, Repr

/-- What the load command is told. -/
structure LoadArguments where
  target : TableArguments
  primaryKey : Option String := none
  config : Option String := none
  longTransaction : Bool := false
  sequential : Bool := false
  errorOnMissingRow : Bool := false
deriving DecidableEq, Repr

/-- The commands. -/
inductive CommandName
  | render
  | load
deriving DecidableEq, Repr

/-- The name of a command. -/
def CommandName.name : CommandName → String
  | render => "render"
  | load => "load"

/-- What a command line asks for. -/
inductive Request
  | render (a : TableArguments)
  | load (a : LoadArguments)
  | help
  /-- The version of the program, or of one of its commands. -/
  | version (command : Option CommandName)
  /-- The arguments make no sense. -/
  | misuse
deriving DecidableEq, Repr

namespace Arguments

/-- The options that take a value. -/
inductive ValueOption
  | table
  | columns
  | format
  | batchSize
  | primaryKey
  | config
deriving DecidableEq, Repr

/-- The options that take none. -/
inductive Switch
  | longTransaction
  | sequential
  | errorOnMissingRow
  | help
  | version
deriving DecidableEq, Repr

/-- An option of either kind. -/
inductive Opt
  | value (o : ValueOption)
  | switch (s : Switch)
deriving DecidableEq, Repr

/-- The option of a long name. -/
def longOption? (command : CommandName) (name : String) : Option Opt :=
  if name = "table" then some (.value .table)
  else if name = "columns" then some (.value .columns)
  else if name = "format" then some (.value .format)
  else if name = "batch-size" then some (.value .batchSize)
  else if name = "help" then some (.switch .help)
  else if name = "version" then some (.switch .version)
  else if command = .render then none
  else if name = "primary-key" then some (.value .primaryKey)
  else if name = "config" then some (.value .config)
  else if name = "long-transaction" then some (.switch .longTransaction)
  else if name = "sequential" then some (.switch .sequential)
  else if name = "error-on-missing-row" then some (.switch .errorOnMissingRow)
  else none

/-- The option of a letter. -/
def shortOption? (c : Char) : Option Opt :=
  if c = 't' then some (.value .table)
  else if c = 'c' then some (.value .columns)
  else if c = 'f' then some (.value .format)
  else if c = 'b' then some (.value .batchSize)
  else if c = 'h' then some (.switch .help)
  else if c = 'V' then some (.switch .version)
  else none

/-! ## Collecting arguments -/

/-- The arguments collected so far. -/
structure Given where
  values : List (ValueOption × String) := []
  switches : List Switch := []
  inputs : List String := []

/-- Why the collecting of arguments stops. -/
inductive Stop
  | help
  | version
  | misuse

/-- A number without a sign or with a plus sign, below `2 ^ 64`. -/
def number? (s : String) : Option Nat := (readNat64 s.toList).toOption

/-- Can the option have this value? -/
def accepts (o : ValueOption) (s : String) : Bool :=
  match o with
  | .format => (Format.ofName? s).isSome
  | .batchSize => (number? s).isSome
  | .config => !s.isEmpty
  | _ => true

namespace Given

/-- The value of an option. -/
def value? (g : Given) (o : ValueOption) : Option String := g.values.lookup o

/-- Adds the value of an option, which can be given once. -/
def setValue (g : Given) (o : ValueOption) (s : String) : Except Stop Given :=
  if (g.value? o).isSome || !accepts o s then .error .misuse else .ok { g with values := (o, s) :: g.values }

theorem setValue_of_given {g : Given} {o : ValueOption} (h : (g.value? o).isSome = true) (s : String) :
    g.setValue o s = .error .misuse := by
  simp [setValue, h]

/-- Adds a switch, which can be given once. -/
def setSwitch (g : Given) (s : Switch) : Except Stop Given :=
  match s with
  | .help => .error .help
  | .version => .error .version
  | _ => if s ∈ g.switches then .error .misuse else .ok { g with switches := s :: g.switches }

/-- Adds an input file; there is one, and it has a name. -/
def addInput (g : Given) (s : String) : Except Stop Given :=
  if g.inputs.isEmpty && !s.isEmpty then .ok { g with inputs := [s] } else .error .misuse

theorem addInput_of_given {g : Given} (h : g.inputs ≠ []) (s : String) : g.addInput s = .error .misuse := by
  simp [addInput, h]

/-- Adds several input files. -/
def addInputs (g : Given) : List String → Except Stop Given
  | [] => .ok g
  | s :: rest =>
    match g.addInput s with
    | .error e => .error e
    | .ok g => addInputs g rest

end Given

/-- An argument in its parts. -/
inductive Part
  /-- Two dashes and nothing else. -/
  | terminator
  /-- An option with the value it is joined to, if any. -/
  | opt (o : Opt) (value : Option String)
  | unknown
  | plain (s : String)

/-- The text of a value that is joined to a letter, maybe by an equals sign. -/
def joinedValue : List Char → Option String
  | [] => none
  | '=' :: cs => some (String.ofList cs)
  | cs => some (String.ofList cs)

/-- The option of a long name, maybe with a value after an equals sign. -/
def longPart (command : CommandName) (cs : List Char) : Part :=
  let name := cs.takeWhile (· ≠ '=')
  let value := match cs.dropWhile (· ≠ '=') with
    | [] => none
    | _ :: v => some (String.ofList v)
  match longOption? command (String.ofList name) with
  | some o => .opt o value
  | none => .unknown

/-- The parts of an argument. -/
def partOf (command : CommandName) (s : String) : Part :=
  match s.toList with
  | '-' :: '-' :: [] => .terminator
  | '-' :: '-' :: cs => longPart command cs
  | '-' :: c :: cs =>
    match shortOption? c with
    | some (.value o) => .opt (.value o) (joinedValue cs)
    | some (.switch s) => .opt (.switch s) none
    | none => .unknown
  | _ => .plain s

/-- Collects arguments. `waiting` is an option whose value is to come next. -/
def collect (command : CommandName) (g : Given) (waiting : Option ValueOption) : List String → Except Stop Given
  | [] => if waiting.isSome then .error .misuse else .ok g
  | s :: rest =>
    match partOf command s, waiting with
    | .plain s, some o =>
      match g.setValue o s with
      | .error e => .error e
      | .ok g => collect command g none rest
    | _, some _ => .error .misuse
    | .plain s, none =>
      match g.addInput s with
      | .error e => .error e
      | .ok g => collect command g none rest
    | .terminator, none => g.addInputs rest
    | .unknown, none => .error .misuse
    | .opt (.value o) (some v), none =>
      match g.setValue o v with
      | .error e => .error e
      | .ok g => collect command g none rest
    | .opt (.value o) none, none => collect command g (some o) rest
    | .opt (.switch _) (some _), none => .error .misuse
    | .opt (.switch s) none, none =>
      match g.setSwitch s with
      | .error e => .error e
      | .ok g => collect command g none rest

/-! ## Requests -/

namespace Given

/-- What both commands are told, if the required parts are there. -/
def tableArguments? (g : Given) : Option TableArguments := do
  let table ← g.value? .table
  let columns ← g.value? .columns
  let input ← g.inputs.head?
  pure
    { table := table
      columns := columns
      format := ((g.value? .format).bind Format.ofName?).getD .copy
      batchSize := (g.value? .batchSize).bind number?
      input := input }

/-- What the load command is told. -/
def loadArguments (g : Given) (target : TableArguments) : LoadArguments :=
  { target := target
    primaryKey := g.value? .primaryKey
    config := g.value? .config
    longTransaction := decide (.longTransaction ∈ g.switches)
    sequential := decide (.sequential ∈ g.switches)
    errorOnMissingRow := decide (.errorOnMissingRow ∈ g.switches) }

/-- The request for a command. -/
def request (g : Given) (command : CommandName) : Request :=
  match g.tableArguments? with
  | none => .misuse
  | some target =>
    match command with
    | .render => .render target
    | .load => .load (g.loadArguments target)

end Given

/-- Reads the arguments of a command. -/
def parseCommand (command : CommandName) (args : List String) : Request :=
  match collect command {} none args with
  | .ok g => g.request command
  | .error .help => .help
  | .error .version => .version command
  | .error .misuse => .misuse

/-- Reads the arguments of a request for help: nothing, or what the help is about. -/
def parseHelp : List String → Request
  | [] => .help
  | [topic] => if topic ∈ ["render", "load", "help"] then .help else .misuse
  | _ => .misuse

/-- Reads an argument in the place of a command: only the options of the program itself make sense there. A letter
counts at once, whatever follows it. -/
def parseOption (s : String) : Request :=
  match s.toList with
  | '-' :: 'h' :: _ => .help
  | '-' :: 'V' :: _ => .version none
  | _ => if s = "--help" then .help else if s = "--version" then .version none else .misuse

/-- Reads a command line. -/
def parse : List String → Request
  | [] => .misuse
  | name :: args =>
    if name = "render" then parseCommand .render args
    else if name = "load" then parseCommand .load args
    else if name = "help" then parseHelp args
    else parseOption name

end Arguments

end BulkLoad
