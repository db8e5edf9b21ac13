import BulkLoad.Calendar.Clock
import BulkLoad.Text.Blank

/-!
# Reading dates and times

Readers for the texts of dates and times. A number may be preceded by blanks and has at most the digits of its place
(a year with a sign any number of them); its range is checked as it is read, the calendar after the whole text. Second
60 is a leap second. Two grammars of moments with a zone are in use: `readZoned`, forgiving about the zone, and
`readInternetTime`, which fixes every place.

- `atEnd_eq_ok`: a reader runs to the end exactly when nothing is left over.
-/

namespace BulkLoad.Calendar

open BulkLoad.Text

/-- Why a text is no date or time of the wanted form. -/
inductive ReadError
  | tooShort
  | invalid
  | outOfRange
  | trailing
  | impossible
deriving DecidableEq, Repr

/-- The wording of a reading error. -/
def ReadError.message : ReadError → String
  | .tooShort => "premature end of input"
  | .invalid => "input contains invalid characters"
  | .outOfRange => "input is out of range"
  | .trailing => "trailing input"
  | .impossible => "no possible date and time matching input"

/-- A reader takes characters from the front. -/
abbrev Reader := StateT (List Char) (Except ReadError)

/-- Runs a reader that has to use up the text. -/
def atEnd {α : Type} (r : Reader α) (cs : List Char) : Except ReadError α :=
  match r.run cs with
  | .error e => .error e
  | .ok (a, []) => .ok a
  | .ok (_, _ :: _) => .error .trailing

theorem atEnd_eq_ok {α : Type} {r : Reader α} {cs : List Char} {a : α} :
    atEnd r cs = .ok a ↔ r.run cs = .ok (a, []) := by
  unfold atEnd
  split <;> simp_all

/-! ## Fields -/

/-- Skips blanks. -/
def blanks : Reader Unit := modify trimStart

/-- Takes one given character. -/
def literal (c : Char) : Reader Unit := do
  match ← get with
  | [] => throw .tooShort
  | d :: ds => if d = c then set ds else throw .invalid

/-- The number that digits spell, if it stays below `2 ^ 63`. -/
def numberOf (ds : List Char) : Reader Nat :=
  let n := Nat.ofDigitChars 10 ds 0
  if n < Nat.pow 2 63 then pure n else throw .outOfRange

/-- Takes one or more digits, at most `width` of them where a width is given. -/
def number (width : Option Nat) : Reader Nat := do
  match ← get with
  | [] => throw .tooShort
  | cs =>
    let ds := (width.elim cs (cs.take ·)).takeWhile Char.isDigit
    if ds.isEmpty then throw .invalid
    set (cs.drop ds.length)
    numberOf ds

/-- A number of up to two digits between two bounds. -/
def field (low high : Nat) : Reader Nat := do
  blanks
  let n ← number (some 2)
  if low ≤ n ∧ n ≤ high then pure n else throw .outOfRange

/-- A 32-bit year of up to four digits, or of any number of them behind a sign. -/
def year : Reader Int := do
  blanks
  let y : Int ← match ← get with
    | '-' :: cs => do set cs; pure (-(← number none : Int))
    | '+' :: cs => do set cs; pure (← number none : Int)
    | _ => do pure (← number (some 4) : Int)
  if -2147483648 ≤ y ∧ y ≤ 2147483647 then pure y else throw .outOfRange

/-- An optional point and digits after it, as nanoseconds; digits after the ninth have no effect. -/
def fraction : Reader Nat := do
  match ← get with
  | '.' :: cs =>
    set cs
    let ds := (cs.take 9).takeWhile Char.isDigit
    let n ← number (some 9)
    modify (List.dropWhile Char.isDigit)
    pure (n * Nat.pow 10 (9 - ds.length))
  | _ => pure 0

/-! ## Dates, times and moments -/

/-- A year, month and day before the calendar has been asked. -/
structure DateParts where
  year : Int
  month : Nat
  day : Nat

/-- Hour, minute, second (60 for a leap second) and nanosecond as they are written. -/
structure ClockParts where
  hour : Nat
  minute : Nat
  second : Nat
  nano : Nat

/-- Takes `year-month-day`. -/
def dateParts : Reader DateParts := do
  let y ← year
  literal '-'
  let m ← field 1 12
  literal '-'
  let d ← field 1 31
  pure ⟨y, m, d⟩

/-- Takes `hour:minute:second` and an optional fraction. -/
def clockParts : Reader ClockParts := do
  let h ← field 0 23
  literal ':'
  let m ← field 0 59
  literal ':'
  let s ← field 0 60
  let n ← fraction
  pure ⟨h, m, s, n⟩

/-- The day that the parts name. -/
def DateParts.date (p : DateParts) : Except ReadError Date :=
  match Date.of? p.year p.month p.day with
  | some d => .ok d
  | none => .error .outOfRange

/-- The time that the parts name; second 60 becomes the leap second after second 59. -/
def ClockParts.clock (p : ClockParts) : Except ReadError Clock :=
  let c :=
    if 1000000000 ≤ p.nano then none
    else if p.second = 60 then Clock.of? p.hour p.minute 59 (p.nano + 1000000000)
    else Clock.of? p.hour p.minute p.second p.nano
  match c with
  | some c => .ok c
  | none => .error .outOfRange

/-- The moment that the parts name. -/
def moment (d : DateParts) (c : ClockParts) : Except ReadError Moment := do
  let date ← d.date
  let time ← c.clock
  pure ⟨date, time⟩

/-- Takes a date, a separator and a time. -/
def momentParts (separator : Reader Unit) : Reader (DateParts × ClockParts) := do
  let d ← dateParts
  separator
  let c ← clockParts
  pure (d, c)

/-- Reads `year-month-day`. -/
def readDate (cs : List Char) : Except ReadError Date := do (← atEnd dateParts cs).date

/-- Reads `hour:minute:second` with an optional fraction. -/
def readClock (cs : List Char) : Except ReadError Clock := do (← atEnd clockParts cs).clock

/-- Reads a date and a time with a separator between them. -/
def readMomentWith (separator : Reader Unit) (cs : List Char) : Except ReadError Moment := do
  let (d, c) ← atEnd (momentParts separator) cs
  moment d c

/-- Reads `date time`; any blanks, also none, may stand between them. -/
def readMoment (cs : List Char) : Except ReadError Moment := readMomentWith blanks cs

/-! ## Zones -/

/-- Takes a sign; a minus may also be the mathematical one. -/
def zoneSign : Reader Bool := do
  match ← get with
  | [] => throw .tooShort
  | '+' :: cs => do set cs; pure false
  | '-' :: cs => do set cs; pure true
  | '−' :: cs => do set cs; pure true
  | _ => throw .invalid

/-- Takes the two digits of a zone's hours. A single character is too short, unless it is one of several bytes. -/
def zoneHours : Reader Nat := do
  match ← get with
  | [] => throw .tooShort
  | [c] => if c.toNat < 0x80 then throw .tooShort else throw .invalid
  | a :: b :: cs =>
    if a.isDigit && b.isDigit then do set cs; pure (digitValue a * 10 + digitValue b) else throw .invalid

/-- Takes the two digits of a zone's minutes, or nothing at the end of the text. -/
def zoneMinutes : Reader Nat := do
  match ← get with
  | [] => pure 0
  | [c] => if c.toNat < 0x80 then throw .tooShort else throw .invalid
  | a :: b :: cs =>
    if !(a.isDigit && b.isDigit) then throw .invalid
    else if '5' < a then throw .outOfRange
    else do set cs; pure (digitValue a * 10 + digitValue b)

/-- Takes a zone as minutes ahead of universal time: a `Z`, or a sign, hours and minutes, with any colons and blanks
between them. -/
def zone : Reader Int := do
  blanks
  match ← get with
  | 'Z' :: cs => do set cs; pure 0
  | 'z' :: cs => do set cs; pure 0
  | _ =>
    let negative ← zoneSign
    let h ← zoneHours
    modify (List.dropWhile fun c => c = ':' || isBlank c)
    let m ← zoneMinutes
    let total : Int := h * 60 + m
    pure (if negative then -total else total)

/-- The moment in universal time of a local moment in a zone that is less than a day away. -/
def toUniversal (t : Moment) (ahead : Int) : Except ReadError Moment :=
  if ahead ≤ -1440 ∨ 1440 ≤ ahead then .error .outOfRange
  else match t.minus? ahead with
    | some u => .ok u
    | none => .error .impossible

/-- Takes a date, blanks, a time and a zone. -/
def zonedParts : Reader (DateParts × ClockParts × Int) := do
  let (d, c) ← momentParts blanks
  let z ← zone
  pure (d, c, z)

/-- Reads `date time zone` as a moment in universal time. -/
def readZoned (cs : List Char) : Except ReadError Moment := do
  let (d, c, z) ← atEnd zonedParts cs
  toUniversal (← moment d c) z

/-! ## Internet time -/

/-- Takes exactly `width` digits. -/
def digitsExactly (width : Nat) : Reader Nat := do
  let cs ← get
  let ds := cs.take width
  if ds.length < width then throw .tooShort
  else if !ds.all Char.isDigit then throw .invalid
  else do
    set (cs.drop width)
    numberOf ds

/-- Takes exactly two digits between two bounds. -/
def placeOfTwo (low high : Nat) : Reader Nat := do
  let n ← digitsExactly 2
  if low ≤ n ∧ n ≤ high then pure n else throw .outOfRange

/-- Takes a `Z` or `±hh:mm`. -/
def internetZone : Reader Int := do
  match ← get with
  | 'Z' :: cs => do set cs; pure 0
  | 'z' :: cs => do set cs; pure 0
  | _ =>
    let negative ← zoneSign
    let h ← digitsExactly 2
    literal ':'
    let m ← placeOfTwo 0 59
    let total : Int := h * 60 + m
    pure (if negative then -total else total)

/-- Takes the letter or space between the date and the time. -/
def internetSeparator : Reader Unit := do
  match ← get with
  | [] => throw .tooShort
  | c :: cs => if c = 'T' ∨ c = 't' ∨ c = ' ' then set cs else throw .invalid

/-- Takes `yyyy-mm-ddThh:mm:ss`, an optional fraction and a zone. -/
def internetParts : Reader (DateParts × ClockParts × Int) := do
  let y ← digitsExactly 4
  literal '-'
  let mo ← placeOfTwo 1 12
  literal '-'
  let d ← placeOfTwo 1 31
  internetSeparator
  let h ← placeOfTwo 0 23
  literal ':'
  let mi ← placeOfTwo 0 59
  literal ':'
  let s ← placeOfTwo 0 60
  let n ← fraction
  let z ← internetZone
  pure (⟨y, mo, d⟩, ⟨h, mi, s, n⟩, z)

/-- Reads a moment in the fixed form of internet protocols as a moment in universal time. -/
def readInternetTime (cs : List Char) : Except ReadError Moment := do
  let (d, c, z) ← atEnd internetParts cs
  toUniversal (← moment d c) z

end BulkLoad.Calendar
