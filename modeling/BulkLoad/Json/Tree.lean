import BulkLoad.Json.Number
import BulkLoad.Text.Bytes

/-!
# JSON values

Values with objects whose members are sorted by key, each key once (`setMember`), and their compact text (`Json.text`).

- `setMember_fresh`: a key that is not there yet goes to its place among the sorted keys.
-/

namespace BulkLoad

/-- A JSON value. -/
inductive Json
  | null
  | bool (b : Bool)
  | number (n : JsonNumber)
  | string (s : String)
  | array (items : List Json)
  | object (members : List (String × Json))

/-- The members of a JSON object, sorted by key. -/
abbrev JsonRecord := List (String × Json)

/-- Adds a member in its place; a member that has the key already is replaced. -/
def setMember (key : String) (value : Json) : JsonRecord → JsonRecord
  | [] => [(key, value)]
  | (k, v) :: rest =>
    if key < k then (key, value) :: (k, v) :: rest
    else if key = k then (key, value) :: rest
    else (k, v) :: setMember key value rest

theorem setMember_fresh {key k : String} {value v : Json} {rest : JsonRecord} (h : key < k) :
    setMember key value ((k, v) :: rest) = (key, value) :: (k, v) :: rest := by simp [setMember, h]

/-- The value of a key. -/
def JsonRecord.get? (r : JsonRecord) (key : String) : Option Json := r.lookup key

namespace Json

/-- The value of a member of an object. -/
def member? : Json → String → Option Json
  | object members, key => members.lookup key
  | _, _ => none

/-- The text of a boolean. -/
def boolText (b : Bool) : String := if b then "true" else "false"

/-! ## Text -/

/-- The escaped form of one character of a string. -/
def escapeChar (c : Char) : List Char :=
  if c = '"' then ['\\', '"']
  else if c = '\\' then ['\\', '\\']
  else if c = '\n' then ['\\', 'n']
  else if c = '\r' then ['\\', 'r']
  else if c = '\t' then ['\\', 't']
  else if c.toNat = 8 then ['\\', 'b']
  else if c.toNat = 12 then ['\\', 'f']
  else if c.toNat < 0x20 then ['\\', 'u', '0', '0', hexDigit (c.toNat / 16), hexDigit (c.toNat % 16)]
  else [c]

/-- The text of a string. -/
def stringChars (s : String) : List Char := '"' :: (s.toList.flatMap escapeChar ++ ['"'])

/-- Puts a comma before every text but the first. -/
def commaSeparated : List (List Char) → List Char
  | [] => []
  | [t] => t
  | t :: ts => t ++ ',' :: commaSeparated ts

mutual

/-- The compact text of a value. -/
def chars : Json → List Char
  | null => "null".toList
  | bool b => (boolText b).toList
  | number n => n.chars
  | string s => stringChars s
  | array items => '[' :: (commaSeparated (itemsChars items) ++ [']'])
  | object members => '\x7b' :: (commaSeparated (membersChars members) ++ ['\x7d'])

/-- The texts of the items of an array. -/
def itemsChars : List Json → List (List Char)
  | [] => []
  | v :: vs => v.chars :: itemsChars vs

/-- The texts of the members of an object. -/
def membersChars : List (String × Json) → List (List Char)
  | [] => []
  | (k, v) :: ms => (stringChars k ++ ':' :: v.chars) :: membersChars ms

end

/-- The compact text of a value. -/
def text (v : Json) : String := String.ofList v.chars

end Json

end BulkLoad
