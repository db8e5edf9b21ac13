import BulkLoad.Field

/-!
# Reading payloads

How a server reads a payload: lines at the line feeds, fields at the tabs, and then the escapes of each field. The
grammar has escapes that no field is written with, such as octal ones. A line of a backslash and a point ends a `copy`
payload.

- `takeDigits_length_le`: reading the digits of an escape never lengthens the rest of the field;
- `readLines_append`: lines are read from left to right.
-/

namespace BulkLoad

/-- The fields of a payload line; a missing value has none. -/
abbrev RawRow := List (Option Bytes)

/-- What is wrong with a field. -/
inductive FieldFault
  | loneEscape
  | nulByte
deriving DecidableEq, Repr

/-- The wording of a field fault. -/
def FieldFault.message : FieldFault → String
  | .loneEscape => "field ends with a lone escape character"
  | .nulByte => "invalid byte sequence: 0x00"

/-- A fault and the number of its line, from one. -/
structure PayloadError where
  line : Nat
  fault : FieldFault
deriving DecidableEq, Repr

/-- The wording of a payload error. -/
def PayloadError.message (e : PayloadError) : String := s!"line {e.line}: {e.fault.message}"

/-! ## Escapes -/

/-- Takes at most `n` digits of a base behind the number `acc`. -/
def takeDigits (digit? : UInt8 → Option Nat) (base : Nat) : Nat → Nat → Bytes → Nat × Bytes
  | 0, acc, bs => (acc, bs)
  | _ + 1, acc, [] => (acc, [])
  | n + 1, acc, b :: bs =>
    match digit? b with
    | some d => takeDigits digit? base n (acc * base + d) bs
    | none => (acc, b :: bs)

theorem takeDigits_length_le (digit? : UInt8 → Option Nat) (base : Nat) : ∀ (n acc : Nat) (bs : Bytes),
    (takeDigits digit? base n acc bs).2.length ≤ bs.length
  | 0, _, _ => Nat.le_refl _
  | _ + 1, _, [] => Nat.le_refl _
  | n + 1, acc, b :: bs => by
    rw [takeDigits]
    split
    · exact Nat.le_trans (takeDigits_length_le digit? base n _ bs) (Nat.le_succ _)
    · exact Nat.le_refl _

/-- The number of an octal digit. -/
def octalDigit? (b : UInt8) : Option Nat := if 0x30 ≤ b ∧ b ≤ 0x37 then some (b.toNat - 0x30) else none

/-- The byte that a one-letter escape stands for in both formats. -/
def letterEscape? (b : UInt8) : Option UInt8 :=
  if b = Bytes.ofAscii 'n' then some Bytes.lineFeed
  else if b = Bytes.ofAscii 't' then some Bytes.tab
  else if b = Bytes.ofAscii 'r' then some Bytes.carriageReturn
  else if b = Bytes.ofAscii 'b' then some 0x08
  else none

/-- The byte that an escape of the `copy` format stands for, and the bytes after the escape. A number has up to three
octal digits, or up to two hexadecimal ones behind an `x`; every other byte stands for itself. -/
def copyEscape (b : UInt8) (bs : Bytes) : UInt8 × Bytes :=
  if b = Bytes.ofAscii 'f' then (0x0c, bs)
  else if b = Bytes.ofAscii 'v' then (0x0b, bs)
  else if b = Bytes.ofAscii 'x' then
    match bs with
    | [] => (b, bs)
    | c :: _ =>
      match hexByte? c with
      | none => (b, bs)
      | some _ => let r := takeDigits hexByte? 16 2 0 bs; (r.1.toUInt8, r.2)
  else match octalDigit? b with
    | some d => let r := takeDigits octalDigit? 8 2 d bs; (r.1.toUInt8, r.2)
    | none => (b, bs)

/-- The byte that an escape of the `load-data` format stands for. -/
def loadDataEscape (b : UInt8) : UInt8 :=
  if b = Bytes.ofAscii '0' then 0
  else if b = Bytes.ofAscii 'Z' then 0x1a
  else b

/-- The byte that the escape starting with `b` stands for, and the bytes after it. -/
def readEscape (f : Format) (b : UInt8) (bs : Bytes) : UInt8 × Bytes :=
  match letterEscape? b with
  | some e => (e, bs)
  | none =>
    match f with
    | .copy => copyEscape b bs
    | .loadData => (loadDataEscape b, bs)

theorem readEscape_length_le (f : Format) (b : UInt8) (bs : Bytes) : (readEscape f b bs).2.length ≤ bs.length := by
  unfold readEscape
  split
  · exact Nat.le_refl _
  cases f with
  | loadData => exact Nat.le_refl _
  | copy =>
    simp only [copyEscape]
    split
    · exact Nat.le_refl _
    split
    · exact Nat.le_refl _
    split
    · split
      · exact Nat.le_refl _
      · split
        · exact Nat.le_refl _
        · exact takeDigits_length_le _ _ _ _ _
    · split
      · exact takeDigits_length_le _ _ _ _ _
      · exact Nat.le_refl _

/-- Replaces the escapes of a field by the bytes they stand for; none when the field ends inside an escape. -/
def unescape (f : Format) : Bytes → Option Bytes
  | [] => some []
  | b :: bs =>
    if b ≠ Bytes.backslash then (unescape f bs).map (b :: ·)
    else match bs with
      | [] => none
      | c :: cs =>
        have := readEscape_length_le f c cs
        (unescape f (readEscape f c cs).2).map ((readEscape f c cs).1 :: ·)
termination_by bs => bs.length
decreasing_by
  · simp
  · simp only [List.length_cons]; omega

/-! ## Fields, lines and payloads -/

/-- Reads one field. A NUL byte is no text in `copy`. -/
def readField (f : Format) (field : Bytes) : Except FieldFault (Option Bytes) :=
  if field = nullMarker then .ok none
  else match unescape f field with
    | none => .error .loneEscape
    | some bs => if f = .copy ∧ 0 ∈ bs then .error .nulByte else .ok (some bs)

/-- Reads one line. -/
def readRow (f : Format) (line : Bytes) : Except FieldFault RawRow := (line.splitOn Bytes.tab).mapM (readField f)

/-- The line that ends a `copy` payload. -/
def endMarker : Bytes := [Bytes.backslash, Bytes.ofAscii '.']

/-- Reads lines, the first of which has number `n`. -/
def readLines (f : Format) (n : Nat) : List Bytes → Except PayloadError (List RawRow)
  | [] => .ok []
  | line :: lines =>
    if f = .copy ∧ line = endMarker then .ok []
    else match readRow f line with
      | .error fault => .error ⟨n, fault⟩
      | .ok row => (readLines f (n + 1) lines).map (row :: ·)

/-- The rows of a payload. The line feed after the last line may be missing. -/
def readPayload (f : Format) (payload : Bytes) : Except PayloadError (List RawRow) := readLines f 1 payload.lines

theorem readLines_append {f : Format} : ∀ {n : Nat} {a b : List Bytes} {rows : List RawRow},
    (f = .copy → endMarker ∉ a) → readLines f n a = .ok rows →
    readLines f n (a ++ b) = (readLines f (n + a.length) b).map (rows ++ ·)
  | n, [], b, rows, _, h => by
    cases h
    simp only [List.nil_append, List.length_nil, Nat.add_zero]
    cases readLines f n b <;> simp [Except.map]
  | n, line :: a, b, rows, hm, h => by
    have hne : ¬ (f = .copy ∧ line = endMarker) := fun ⟨hf, hl⟩ => hm hf (by simp [hl])
    rw [readLines, if_neg hne] at h
    rw [List.cons_append, readLines, if_neg hne]
    cases hr : readRow f line with
    | error fault => rw [hr] at h; cases h
    | ok row =>
      rw [hr] at h
      cases ht : readLines f (n + 1) a with
      | error e => rw [ht] at h; cases h
      | ok rs =>
        rw [ht] at h
        cases h
        have := readLines_append (b := b) (fun hf hmem => hm hf (by simp [hmem])) ht
        simp only [this, List.length_cons, Nat.add_assoc, Nat.add_comm 1]
        cases readLines f (n + (a.length + 1)) b <;> simp [Except.map]

end BulkLoad
