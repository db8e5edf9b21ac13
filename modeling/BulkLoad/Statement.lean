import BulkLoad.Format
import BulkLoad.Schema
import BulkLoad.Text.Blank

/-!
# Bulk statements

The statement that introduces a payload names the table and the columns (`statement`); a server reads both back out of
its text (`Destination.read?`). Names are quoted part by part: a table name is cut at its points. `copy` leaves plain
lower-case names as they are and quotes others with double quotes, `load-data` quotes every name with backticks; a
quote inside a name is written twice.

- `undouble_double`: reading a quoted name gives the name back.
-/

namespace BulkLoad

open BulkLoad.Text

/-- The backtick. -/
def backtick : Char := Char.ofNat 96

/-! ## Names -/

/-- A lower-case letter or an underscore. -/
def startsPlainName (c : Char) : Bool := ('a' ≤ c && c ≤ 'z') || c == '_'

/-- Lower-case letters, digits and underscores, without a digit at the start. -/
def isPlainName : List Char → Bool
  | [] => false
  | c :: cs => startsPlainName c && cs.all fun d => startsPlainName d || d.isDigit

/-- Writes each quote twice. -/
def double (quote : Char) : List Char → List Char
  | [] => []
  | c :: cs => if c = quote then quote :: quote :: double quote cs else c :: double quote cs

/-- Replaces each pair of quotes by one. -/
def undouble (quote : Char) : List Char → List Char
  | c :: d :: cs => if c = quote ∧ d = quote then quote :: undouble quote cs else c :: undouble quote (d :: cs)
  | cs => cs

theorem undouble_double (quote : Char) (cs : List Char) : undouble quote (double quote cs) = cs := by
  induction cs with
  | nil => rfl
  | cons c cs ih =>
    by_cases h : c = quote
    · simp [double, h, undouble, ih]
    · rw [double, if_neg h]
      cases hd : double quote cs with
      | nil => rw [hd] at ih; simp [undouble] at ih ⊢; exact ih
      | cons d ds => rw [hd] at ih; rw [undouble, if_neg (fun e => h e.1), ih]

/-- A name inside quotes. -/
def quoteName (quote : Char) (cs : List Char) : List Char := quote :: (double quote cs ++ [quote])

/-- A name as it stands in a statement. -/
def writeName (f : Format) (cs : List Char) : List Char :=
  match f with
  | .copy => if isPlainName cs then cs else quoteName '"' cs
  | .loadData => quoteName backtick cs

/-- Joins texts with a separator between them. -/
def joinWith (separator : List Char) : List (List Char) → List Char
  | [] => []
  | [t] => t
  | t :: ts => t ++ separator ++ joinWith separator ts

/-- A table name as it stands in a statement, part by part. -/
def writeTable (f : Format) (table : List Char) : List Char :=
  joinWith ['.'] ((table.splitOn '.').map (writeName f))

/-- The column names as they stand in a statement. -/
def writeColumns (f : Format) (columns : List String) : List Char :=
  joinWith [',', ' '] (columns.map fun n => writeName f n.toList)

/-- The statement for a table and columns. -/
def statementFor (f : Format) (table : String) (columns : List String) : List Char :=
  match f with
  | .copy =>
    "COPY ".toList ++ writeTable f table.toList ++ " (".toList ++ writeColumns f columns
      ++ ") FROM STDIN WITH (FORMAT text, ENCODING 'UTF-8', DELIMITER E'\\t', NULL '\\N')".toList
  | .loadData =>
    "LOAD DATA LOCAL INFILE '' INTO TABLE ".toList ++ writeTable f table.toList
      ++ " CHARACTER SET UTF8 FIELDS TERMINATED BY '\\t' ENCLOSED BY '' ESCAPED BY '\\\\'".toList
      ++ " LINES TERMINATED BY '\\n' (".toList ++ writeColumns f columns ++ ")".toList

/-- The statement that introduces the payloads of a schema. -/
def statement {ρ : Type} (f : Format) (s : Schema ρ) : String := String.ofList (statementFor f s.table s.names)

/-! ## Reading statements -/

/-- A character that opens a quoted name. -/
def isNameQuote (c : Char) : Bool := c = '"' || c = backtick

/-- Cuts a text before the first occurrence of a pattern outside of quotes. `open?` is the quote that is open at the
start. -/
def cutUnquoted? (pattern : List Char) : (open? : Option Char) → List Char → Option (List Char × List Char)
  | _, [] => none
  | none, c :: cs =>
    if isNameQuote c then (cutUnquoted? pattern (some c) cs).map fun r => (c :: r.1, r.2)
    else if pattern.isPrefixOf (c :: cs) then some ([], c :: cs)
    else (cutUnquoted? pattern none cs).map fun r => (c :: r.1, r.2)
  | some q, c :: cs =>
    (cutUnquoted? pattern (if c = q then none else some q) cs).map fun r => (c :: r.1, r.2)

/-- Splits a text at each separator outside of quotes. -/
def splitUnquoted (separator : Char) : (open? : Option Char) → List Char → List (List Char)
  | _, [] => [[]]
  | none, c :: cs =>
    if isNameQuote c then (splitUnquoted separator (some c) cs).modifyHead (c :: ·)
    else if c = separator then [] :: splitUnquoted separator none cs
    else (splitUnquoted separator none cs).modifyHead (c :: ·)
  | some q, c :: cs =>
    (splitUnquoted separator (if c = q then none else some q) cs).modifyHead (c :: ·)

/-- The text between a quote at the start and the same quote at the end. -/
def withoutQuotes? (quote : Char) : List Char → Option (List Char)
  | [] => none
  | c :: cs => if c = quote ∧ cs.getLast? = some quote then some cs.dropLast else none

/-- The name that a text in a statement stands for. -/
def readName (cs : List Char) : List Char :=
  match withoutQuotes? '"' cs with
  | some inner => undouble '"' inner
  | none =>
    match withoutQuotes? backtick cs with
    | some inner => undouble backtick inner
    | none => cs

/-- The table and the columns that a statement names. -/
structure Destination where
  table : String
  columns : List String
deriving DecidableEq, Repr

/-- The part of a statement with the table name, and the rest from the parenthesis before the columns. -/
def cutTable? (f : Format) (sql : List Char) : Option (List Char × List Char) :=
  match f with
  | .copy => do
    let body ← "COPY ".toList.isPrefixOf? sql
    let (table, rest) ← cutUnquoted? " (".toList none body
    pure (table, rest.drop 1)
  | .loadData => do
    let body ← "LOAD DATA LOCAL INFILE '' INTO TABLE ".toList.isPrefixOf? sql
    let (table, options) ← cutUnquoted? " CHARACTER SET".toList none body
    let (_, rest) ← cutUnquoted? " (".toList none options
    pure (table, rest.drop 1)

/-- Reads the table and the columns out of a statement. -/
def Destination.read? (f : Format) (sql : String) : Option Destination := do
  let (table, rest) ← cutTable? f sql.toList
  let (columns, _) ← cutUnquoted? [')'] none rest
  pure
    { table := String.ofList (joinWith ['.'] ((splitUnquoted '.' none table).map fun p => readName (trim p)))
      columns := (splitUnquoted ',' none (columns.drop 1)).map fun c => String.ofList (readName (trim c)) }

end BulkLoad
