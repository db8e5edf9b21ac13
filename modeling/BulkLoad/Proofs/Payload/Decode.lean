import BulkLoad.ColumnType
import BulkLoad.Proofs.Calendar.ReadBack
import BulkLoad.Proofs.Payload.Literal

/-!
# Typed values

A column of the type of a value reads the literal of the value as what reads back of it (`Value.readBack`,
`decode_literal`): the value itself, unless it has a leap second that does not follow second 59, which no column ever
reads (`proper_decode`). Two types are apart: a double is printed with the fewest digits that identify it, and an exact
decimal may be written without digits in front of its point, which a column refuses. What a column takes of a decimal is
the value (`eq_of_decode_literal`).
-/

namespace BulkLoad

open List

/-- The column type of the variant of a value. A missing value belongs to every type. -/
def Value.type? : Value → Option ColumnType
  | .null => none
  | .bool _ => some .bool
  | .int _ => some .int
  | .float _ => some .float
  | .decimal _ => some .decimal
  | .text _ => some .text
  | .bytes _ => some .bytes
  | .date _ => some .date
  | .time _ => some .time
  | .timestamp _ => some .timestamp
  | .timestampTz _ => some .timestampTz

/-! ## Leap seconds -/

namespace Value

/-- The time of day that a value has. -/
def clock? : Value → Option Clock
  | .time t => some t
  | .timestamp t => some t.time
  | .timestampTz t => some t.time
  | _ => none

/-- The value has no leap second but one that follows second 59. -/
def Proper (v : Value) : Prop := ∀ t ∈ v.clock?, t.Proper

/-- The value that the text of a value names. -/
def readBack : Value → Value
  | .time t => .time t.readBack
  | .timestamp t => .timestamp t.readBack
  | .timestampTz t => .timestampTz t.readBack
  | v => v

/-- **A value is read back exactly when it is proper.** -/
theorem readBack_eq_self {v : Value} : v.readBack = v ↔ v.Proper := by
  unfold Proper
  cases v with
  | time t => simp [readBack, clock?, Clock.readBack_eq_self]
  | timestamp t => simp [readBack, clock?, Moment.readBack_eq_self]
  | timestampTz t => simp [readBack, clock?, Moment.readBack_eq_self]
  | _ => simp [readBack, clock?]

end Value

/-- A value that was made of something has been made of it. -/
theorem exists_of_map {ε α β : Type} {x : Except ε α} {f : α → β} {b : β} (h : x.map f = .ok b) :
    ∃ a, x = .ok a ∧ b = f a := by
  cases x with
  | error e => cases h
  | ok a => cases h; exact ⟨a, rfl, rfl⟩

theorem eq_of_calendarFault {α : Type} {x : Except Calendar.ReadError α} {a : α} (h : calendarFault x = .ok a) :
    x = .ok a := by
  cases x with
  | error e => cases h
  | ok b => cases h; rfl

theorem proper_readUniversal {f : Format} {cs : List Char} {t : Moment} (h : readUniversal f cs = .ok t) :
    t.time.Proper := by
  cases f with
  | copy => exact Calendar.proper_readZoned h
  | loadData => exact Calendar.proper_readMomentWith h

theorem proper_readLiteral {ty : ColumnType} {f : Format} {s : String} {v : Value}
    (h : ty.readLiteral f s = .ok v) : v.Proper := by
  cases ty with
  | time =>
    obtain ⟨t, ht, rfl⟩ := exists_of_map h
    rintro _ ⟨⟩
    exact Calendar.proper_readClock (eq_of_calendarFault ht)
  | timestamp =>
    obtain ⟨t, ht, rfl⟩ := exists_of_map h
    rintro _ ⟨⟩
    exact Calendar.proper_readMomentWith (eq_of_calendarFault ht)
  | timestampTz =>
    obtain ⟨t, ht, rfl⟩ := exists_of_map h
    rintro _ ⟨⟩
    exact proper_readUniversal (eq_of_calendarFault ht)
  | text =>
    cases h
    rintro _ ⟨⟩
  | decimal =>
    change (if isStoredDecimal s.toList then _ else _) = _ at h
    split at h
    · cases h
      rintro _ ⟨⟩
    · cases h
  | _ =>
    obtain ⟨_, _, rfl⟩ := exists_of_map h
    rintro _ ⟨⟩

/-- **The values that columns read are proper.** -/
theorem proper_decode {ty : ColumnType} {f : Format} {raw : Bytes} {v : Value} (h : ty.decode f raw = .ok v) :
    v.Proper := by
  unfold ColumnType.decode at h
  split at h
  · cases h
    rintro _ ⟨⟩
  · split at h
    · cases h
    · next s _ =>
      cases hread : ty.readLiteral f s with
      | error e => rw [hread] at h; cases h
      | ok w =>
        rw [hread] at h
        cases h
        exact proper_readLiteral hread

namespace ColumnType

/-- A column that does not take raw bytes reads text. -/
theorem decode_ofChars {ty : ColumnType} {f : Format} (h : ¬ (ty = .bytes ∧ f = .loadData)) (cs : List Char) :
    ty.decode f (Bytes.ofChars cs) =
      (ty.readLiteral f (String.ofList cs)).mapError (.badLiteral ty (String.ofList cs)) := by
  have htext : Bytes.text? (Bytes.ofChars cs) = some (String.ofList cs) := by
    have hbytes := ofString_eq_ofChars (String.ofList cs)
    rw [String.toList_ofList] at hbytes
    rw [← hbytes, Bytes.text?_ofString]
  rw [decode, if_neg h, htext]

end ColumnType

/-! ## Integers -/

/-- Digits without a sign are read as the number they were printed for. -/
theorem readInteger_natDigits {below above n : Nat} (h : n ≤ above) :
    readInteger below above (natDigits n) = .ok (n : Int) := by
  have hread := magnitude_toDigits .tooLarge h
  have hdigit : ∀ c ∈ natDigits n, c.isDigit = true := fun c hc =>
    Nat.isDigit_of_mem_toDigits (by decide) (by decide) hc
  unfold readInteger
  split
  · next heq => exact absurd heq Nat.toDigits_ne_nil
  · next heq =>
    rw [heq] at hdigit
    exact absurd (hdigit '+' mem_cons_self) (by decide)
  · next heq =>
    rw [heq] at hdigit
    exact absurd (hdigit '-' mem_cons_self) (by decide)
  · rw [hread]
    rfl

/-- **An integer is read back.** -/
theorem readInt64_intDigits (i : Int64) : readInt64 (intDigits i.toInt) = .ok i := by
  have hlow := i.le_toInt
  have hhigh := i.toInt_lt
  have hint : readInteger (Nat.pow 2 63) (Nat.pow 2 63 - 1) (intDigits i.toInt) = .ok i.toInt := by
    unfold intDigits
    split
    · have hmag : magnitude (Nat.pow 2 63) .tooSmall (natDigits i.toInt.natAbs) = .ok i.toInt.natAbs :=
        magnitude_toDigits .tooSmall (show i.toInt.natAbs ≤ 9223372036854775808 by omega)
      rw [readInteger, hmag]
      exact congrArg Except.ok (show -((i.toInt.natAbs : Nat) : Int) = i.toInt by omega)
    · rw [readInteger_natDigits (show i.toInt.natAbs ≤ 9223372036854775807 by omega)]
      exact congrArg Except.ok (show ((i.toInt.natAbs : Nat) : Int) = i.toInt by omega)
  rw [readInt64, hint, Except.map, Int64.ofInt_toInt]

/-! ## Raw bytes -/

theorem hexByte?_hexDigit {n : Nat} (h : n < 16) : hexByte? (hexDigit n).toNat.toUInt8 = some n := by
  revert h n
  decide

theorem ofChars_hexPair (b : UInt8) : Bytes.ofChars (hexPair b) =
    [(hexDigit (b.toNat / 16)).toNat.toUInt8, (hexDigit (b.toNat % 16)).toNat.toUInt8] := by
  have hascii : ∀ n < 16, String.utf8EncodeChar (hexDigit n) = [(hexDigit n).toNat.toUInt8] := by decide
  have hlt := b.toNat_lt
  simp only [Bytes.ofChars, hexPair, flatMap_cons, flatMap_nil, hascii _ (show b.toNat / 16 < 16 by omega),
    hascii _ (show b.toNat % 16 < 16 by omega), singleton_append, append_nil]

/-- **Hexadecimal pairs are read back.** -/
theorem readHexPairs_hexPair : ∀ bs : Bytes, readHexPairs (Bytes.ofChars (bs.flatMap hexPair)) = .ok bs
  | [] => rfl
  | b :: bs => by
    have hlt := b.toNat_lt
    have hhigh := hexByte?_hexDigit (show b.toNat / 16 < 16 by omega)
    have hlow := hexByte?_hexDigit (show b.toNat % 16 < 16 by omega)
    have hbyte : (b.toNat / 16 * 16 + b.toNat % 16).toUInt8 = b := by
      rw [Nat.div_add_mod' b.toNat 16]
      exact UInt8.ofNat_toNat
    rw [flatMap_cons, Bytes.ofChars_append, ofChars_hexPair, cons_append, singleton_append, readHexPairs, hhigh, hlow]
    simp only [readHexPairs_hexPair bs, hbyte]
    rfl

theorem length_hexPairs : ∀ bs : Bytes, (Bytes.ofChars (bs.flatMap hexPair)).length = 2 * bs.length
  | [] => rfl
  | b :: bs => by
    have ih := length_hexPairs bs
    rw [flatMap_cons, Bytes.ofChars_append, ofChars_hexPair, length_append, ih]
    simp only [length_cons, length_nil]
    omega

/-- The hexadecimal form of raw bytes, behind its mark. -/
theorem readHexBytes_literal (bs : Bytes) :
    readHexBytes (Bytes.backslash :: Bytes.ofAscii 'x' :: Bytes.ofChars (bs.flatMap hexPair)) = .ok bs := by
  have heven : (Bytes.ofChars (bs.flatMap hexPair)).length % 2 = 0 := by rw [length_hexPairs]; omega
  rw [readHexBytes, if_neg (by simp), if_neg (by simp [heven]), readHexPairs_hexPair]

/-! ## Values -/

/-- **A column reads the literal of a value of its type as what reads back of the value.** -/
theorem decode_literal {f : Format} {v : Value} {ty : ColumnType} {lit : Bytes} (hlit : v.literal? f = some lit)
    (htype : v.type? = some ty) (hfloat : ty ≠ .float) (hdecimal : ty ≠ .decimal) :
    ty.decode f lit = .ok v.readBack := by
  cases v with
  | null => cases htype
  | float x => cases htype; exact absurd rfl hfloat
  | decimal digits => cases htype; exact absurd rfl hdecimal
  | bool b =>
    cases htype
    cases hlit
    have hread : ∃ cs, boolLiteral f b = Bytes.ofChars cs ∧ readBool f (String.ofList cs) = .ok b := by
      cases f <;> cases b
      · exact ⟨['f'], rfl, rfl⟩
      · exact ⟨['t'], rfl, rfl⟩
      · exact ⟨['0'], rfl, rfl⟩
      · exact ⟨['1'], rfl, rfl⟩
    obtain ⟨cs, hcs, hread⟩ := hread
    rw [hcs, ColumnType.decode_ofChars (by simp), ColumnType.readLiteral, hread]
    rfl
  | int i =>
    cases htype
    cases hlit
    rw [ColumnType.decode_ofChars (by simp), ColumnType.readLiteral, String.toList_ofList, readInt64_intDigits]
    rfl
  | text s =>
    cases htype
    cases hlit
    exact ColumnType.decode_text f s
  | bytes bs =>
    cases htype
    cases f with
    | loadData => cases hlit; rfl
    | copy =>
      cases hlit
      have hchars : Bytes.backslash :: Bytes.ofAscii 'x' :: Bytes.ofChars (bs.flatMap hexPair) =
          Bytes.ofChars ('\\' :: 'x' :: bs.flatMap hexPair) := rfl
      have hstring : Bytes.ofString (String.ofList ('\\' :: 'x' :: bs.flatMap hexPair)) =
          Bytes.ofChars ('\\' :: 'x' :: bs.flatMap hexPair) := by
        rw [ofString_eq_ofChars, String.toList_ofList]
      rw [hchars, ColumnType.decode_ofChars (by simp), ColumnType.readLiteral, hstring, ← hchars, readHexBytes_literal]
      rfl
  | date d =>
    cases htype
    cases hlit
    rw [ColumnType.decode_ofChars (by simp), ColumnType.readLiteral, String.toList_ofList, Calendar.readDate_text]
    rfl
  | time t =>
    cases htype
    cases hlit
    rw [ColumnType.decode_ofChars (by simp), ColumnType.readLiteral, String.toList_ofList, Calendar.readClock_text]
    rfl
  | timestamp t =>
    cases htype
    cases hlit
    rw [ColumnType.decode_ofChars (by simp), ColumnType.readLiteral, String.toList_ofList, Calendar.readMoment_text]
    rfl
  | timestampTz t =>
    cases htype
    cases hlit
    have hread : readUniversal f (zonedLiteral f t) = .ok t.readBack := by
      cases f with
      | copy => exact Calendar.readZoned_text t
      | loadData => exact Calendar.readMoment_text t
    rw [ColumnType.decode_ofChars (by simp), ColumnType.readLiteral, String.toList_ofList, hread]
    rfl

/-- A value that is neither missing nor a number with a point is written as a field, unless it is a text with a NUL byte
in `copy`. -/
theorem exists_encodeField {f : Format} {v : Value} {ty : ColumnType} (htype : v.type? = some ty) (hfloat : ty ≠ .float)
    (hdecimal : ty ≠ .decimal) (hnul : ∀ s, f = .copy → v = .text s → 0 ∉ Bytes.ofString s) :
    ∃ field, encodeField f v = .ok field := by
  cases v with
  | null => cases htype
  | float x => cases htype; exact absurd rfl hfloat
  | decimal digits => cases htype; exact absurd rfl hdecimal
  | text s => exact exists_escape fun hf => hnul s hf rfl
  | bytes bs =>
    cases f with
    | copy => exact ⟨_, rfl⟩
    | loadData => exact exists_escape nofun
  | bool | int | date | time | timestamp | timestampTz => exact ⟨_, rfl⟩

/-- What a column takes of a value of its type is what reads back of the value. -/
theorem eq_of_decode_literal {f : Format} {v v' : Value} {ty : ColumnType} {lit : Bytes} (hlit : v.literal? f = some lit)
    (htype : v.type? = some ty) (hfloat : ty ≠ .float) (h : ty.decode f lit = .ok v') : v' = v.readBack := by
  by_cases hdecimal : ty = .decimal
  · subst hdecimal
    cases v <;> cases htype
    next digits =>
    simp only [Value.literal?, encodeField] at hlit
    split at hlit
    · cases hlit
      rw [ColumnType.decode, if_neg (by simp), Bytes.text?_ofString] at h
      simp only [ColumnType.readLiteral] at h
      split at h
      · cases h
        rfl
      · cases h
    · cases hlit
  · rw [decode_literal hlit htype hfloat hdecimal] at h
    cases h
    rfl

/-! ## Fields -/

/-- The last leap second of the calendar, and a nanosecond of it. -/
def lastLeapSecond : Moment where
  date := ⟨262142, 12, 31, by decide⟩
  time := ⟨23, 59, 59, 1000000001, by decide⟩

/-- A leap second that follows second 4. -/
def strangeLeapSecond : Clock := ⟨23, 56, 4, 1333333333, by decide⟩

end BulkLoad
