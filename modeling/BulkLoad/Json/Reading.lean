import BulkLoad.Json.Tree

/-!
# Reading JSON

Reads a text as one JSON value (`Json.read?`). Values nest to a depth of 127; a string holds no raw control characters,
and its escapes of UTF-16 units have to be paired. Of the members of an object with the same key the last one counts;
`Json.readAll?` keeps them all, for readers that refuse repeated keys. The readers of values, items and members call
each other at most twice for each character, so fuel of twice the length of the text is enough.

- `skipBlanks_of_not`: nothing is skipped before a character that is no blank;
- `takeEscape?_length`: reading an escape shortens the text, so that a string is read in the end.
-/

namespace BulkLoad.Json

/-- The four blanks between the parts of a JSON text. -/
def isJsonBlank (c : Char) : Bool := c = ' ' || c = '\n' || c = '\t' || c = '\r'

/-- The text without the blanks at its front. -/
def skipBlanks (cs : List Char) : List Char := cs.dropWhile isJsonBlank

theorem skipBlanks_of_not {c : Char} {cs : List Char} (h : isJsonBlank c = false) : skipBlanks (c :: cs) = c :: cs := by
  simp [skipBlanks, h]

/-! ## Strings -/

/-- The number of four hexadecimal digits at the front of a text, and what follows them. -/
def takeUnit? : List Char → Option (Nat × List Char)
  | a :: b :: c :: d :: cs => do
    let a ← hexValue? a
    let b ← hexValue? b
    let c ← hexValue? c
    let d ← hexValue? d
    pure (((a * 16 + b) * 16 + c) * 16 + d, cs)
  | _ => none

/-- Takes the rest of an escape that names a character by one or two UTF-16 units. -/
def takeUnits? (cs : List Char) : Option (Char × List Char) :=
  match takeUnit? cs with
  | none => none
  | some (high, rest) =>
    if high < 0xd800 ∨ 0xe000 ≤ high then some (Char.ofNat high, rest)
    else if 0xdc00 ≤ high then none
    else match rest with
      | '\\' :: 'u' :: tail =>
        match takeUnit? tail with
        | none => none
        | some (low, rest) =>
          if 0xdc00 ≤ low ∧ low < 0xe000 then
            some (Char.ofNat (0x10000 + (high - 0xd800) * 0x400 + (low - 0xdc00)), rest)
          else none
      | _ => none

/-- The character that an escape of one letter or mark stands for. -/
def simpleEscape? (c : Char) : Option Char :=
  if c = '"' ∨ c = '\\' ∨ c = '/' then some c
  else if c = 'b' then some (Char.ofNat 8)
  else if c = 'f' then some (Char.ofNat 12)
  else if c = 'n' then some '\n'
  else if c = 'r' then some '\r'
  else if c = 't' then some '\t'
  else none

/-- Takes the rest of an escape behind its backslash. -/
def takeEscape? : List Char → Option (Char × List Char)
  | [] => none
  | c :: cs => if c = 'u' then takeUnits? cs else (simpleEscape? c).map fun d => (d, cs)

theorem takeUnit?_length {cs rest : List Char} {n : Nat} (h : takeUnit? cs = some (n, rest)) :
    rest.length < cs.length := by
  unfold takeUnit? at h
  split at h
  · simp only [Option.bind_eq_bind, Option.bind_eq_some_iff, Option.pure_def, Option.some.injEq, Prod.mk.injEq] at h
    obtain ⟨_, _, _, _, _, _, _, _, _, rfl⟩ := h
    simp only [List.length_cons]
    omega
  · cases h

theorem takeUnits?_length {cs rest : List Char} {c : Char} (h : takeUnits? cs = some (c, rest)) :
    rest.length < cs.length := by
  unfold takeUnits? at h
  split at h
  · cases h
  rename_i high tail hu
  have h1 := takeUnit?_length hu
  split at h
  · cases h; exact h1
  split at h
  · cases h
  split at h
  · split at h
    · cases h
    rename_i hl
    have h2 := takeUnit?_length hl
    split at h
    · simp only [Option.some.injEq, Prod.mk.injEq] at h
      obtain ⟨_, rfl⟩ := h
      simp only [List.length_cons] at h1
      omega
    · cases h
  · cases h

theorem takeEscape?_length {cs rest : List Char} {c : Char} (h : takeEscape? cs = some (c, rest)) :
    rest.length < cs.length := by
  cases cs with
  | nil => cases h
  | cons d cs =>
    rw [takeEscape?] at h
    split at h
    · exact Nat.lt_succ_of_lt (takeUnits?_length h)
    · obtain ⟨_, _, he⟩ := Option.map_eq_some_iff.1 h
      cases he
      exact Nat.lt_succ_self _

/-- Takes the characters of a string up to its closing quote. -/
def takeStringChars? : List Char → Option (List Char × List Char)
  | [] => none
  | c :: cs =>
    if c = '"' then some ([], cs)
    else if c = '\\' then
      match h : takeEscape? cs with
      | none => none
      | some (d, rest) =>
        have := takeEscape?_length h
        (takeStringChars? rest).map fun r => (d :: r.1, r.2)
    else if c.toNat < 0x20 then none
    else (takeStringChars? cs).map fun r => (c :: r.1, r.2)
termination_by cs => cs.length
decreasing_by
  · simp only [List.length_cons]; omega
  · simp

/-- Takes a string behind its opening quote. -/
def takeString? (cs : List Char) : Option (String × List Char) :=
  (takeStringChars? cs).map fun r => (String.ofList r.1, r.2)

/-! ## Values -/

/-- Takes the given characters and answers a value for them. -/
def takeWord? (word : String) (v : Json) (cs : List Char) : Option (Json × List Char) :=
  (word.toList.isPrefixOf? cs).map fun rest => (v, rest)

/-- How a member is added to the members of its object before it. -/
abbrev AddMember := String → Json → JsonRecord → JsonRecord

mutual

/-- Takes a value whose first character is not a blank, with room for `depth` levels of nesting below it. -/
def takeValue? (add : AddMember) : (fuel depth : Nat) → List Char → Option (Json × List Char)
  | 0, _, _ => none
  | _ + 1, _, [] => none
  | fuel + 1, depth, c :: cs =>
    if c = '"' then (takeString? cs).map fun r => (string r.1, r.2)
    else if c = '[' then
      if depth ≤ 1 then none
      else match skipBlanks cs with
        | ']' :: rest => some (array [], rest)
        | cs => (takeItems? add fuel (depth - 1) cs).map fun r => (array r.1, r.2)
    else if c = '\x7b' then
      if depth ≤ 1 then none
      else match skipBlanks cs with
        | '\x7d' :: rest => some (object [], rest)
        | cs => (takeMembers? add fuel (depth - 1) [] cs).map fun r => (object r.1, r.2)
    else if c = 't' then takeWord? "true" (bool true) (c :: cs)
    else if c = 'f' then takeWord? "false" (bool false) (c :: cs)
    else if c = 'n' then takeWord? "null" null (c :: cs)
    else (JsonNumber.take? (c :: cs)).map fun r => (number r.1, r.2)

/-- Takes the items of an array, from the first one to the closing bracket. -/
def takeItems? (add : AddMember) : (fuel depth : Nat) → List Char → Option (List Json × List Char)
  | 0, _, _ => none
  | fuel + 1, depth, cs =>
    match takeValue? add fuel depth cs with
    | none => none
    | some (v, rest) =>
      match skipBlanks rest with
      | ']' :: rest => some ([v], rest)
      | ',' :: rest => (takeItems? add fuel depth (skipBlanks rest)).map fun r => (v :: r.1, r.2)
      | _ => none

/-- Takes the members of an object, from the first one to the closing brace, and adds them to `members`. -/
def takeMembers? (add : AddMember) :
    (fuel depth : Nat) → JsonRecord → List Char → Option (JsonRecord × List Char)
  | 0, _, _, _ => none
  | fuel + 1, depth, members, cs =>
    match cs with
    | '"' :: cs =>
      match takeString? cs with
      | none => none
      | some (key, rest) =>
        match skipBlanks rest with
        | ':' :: rest =>
          match takeValue? add fuel depth (skipBlanks rest) with
          | none => none
          | some (v, rest) =>
            match skipBlanks rest with
            | '\x7d' :: rest => some (add key v members, rest)
            | ',' :: rest => takeMembers? add fuel depth (add key v members) (skipBlanks rest)
            | _ => none
        | _ => none
    | _ => none

end

/-- The nesting at which reading gives up. -/
def depthLimit : Nat := 128

/-- Reads a text as one value with nothing but blanks around it. -/
def readWith? (add : AddMember) (cs : List Char) : Option Json :=
  match takeValue? add (2 * cs.length + 2) depthLimit (skipBlanks cs) with
  | none => none
  | some (v, rest) => if (skipBlanks rest).isEmpty then some v else none

/-- Reads a text as one value; objects are sorted by key, each key once. -/
def read? (cs : List Char) : Option Json := readWith? setMember cs

/-- Reads a text as one value; objects keep all members as they are written. -/
def readAll? (cs : List Char) : Option Json := readWith? (fun key v members => members ++ [(key, v)]) cs

/-- Reads a text as one object. -/
def readRecord? (cs : List Char) : Option JsonRecord :=
  match read? cs with
  | some (object members) => some members
  | _ => none

end BulkLoad.Json
