import BulkLoad.Proofs.Payload.Escape

/-!
# Literals

The bytes that a value stands for before they are escaped (`Value.literal?`): the text itself, the raw bytes or their
hexadecimal form, and for every other value what is printed for it. Every field but the mark of a missing value is the
escaped form of its literal (`encodeField_eq_escape`), because printed numbers, dates and times need no escape, and so
a server reads a field as exactly the literal (`readField_encodeField`).
-/

namespace BulkLoad

/-! ## Printed numbers -/

theorem isPlainChar_of_isDigit {c : Char} (h : c.isDigit = true) : isPlainChar c = true := by
  have h0 : 0x30 ≤ c.toNat ∧ c.toNat ≤ 0x39 := by
    simp only [Char.isDigit, Bool.and_eq_true, decide_eq_true_eq, ge_iff_le, UInt32.le_iff_toNat_le] at h
    exact h
  have hne : c ≠ '\\' := by
    rintro rfl
    exact absurd h0.2 (by decide)
  simp only [isPlainChar, Bool.and_eq_true, decide_eq_true_eq]
  exact ⟨⟨by omega, by omega⟩, hne⟩

@[simp] theorem natDigits_plain (n : Nat) : (natDigits n).all isPlainChar = true :=
  List.all_eq_true.mpr fun _ hc =>
    isPlainChar_of_isDigit (Nat.isDigit_of_mem_toDigits (by decide) (by decide) hc)

@[simp] theorem replicate_zero_plain (n : Nat) : (List.replicate n '0').all isPlainChar = true :=
  List.all_eq_true.mpr fun _ hc => by rw [List.eq_of_mem_replicate hc]; rfl

@[simp] theorem intDigits_plain (i : Int) : (intDigits i).all isPlainChar = true := by
  unfold intDigits
  split
  · rw [List.all_cons, natDigits_plain]; rfl
  · exact natDigits_plain _

@[simp] theorem paddedDigits_plain (width n : Nat) : (paddedDigits width n).all isPlainChar = true := by
  rw [paddedDigits, List.all_append, replicate_zero_plain, natDigits_plain]
  rfl

/-- A part of a plain text is plain. -/
theorem plain_of_subset {cs ds : List Char} (h : ds ⊆ cs) (hcs : cs.all isPlainChar = true) :
    ds.all isPlainChar = true :=
  List.all_eq_true.mpr fun c hc => List.all_eq_true.mp hcs c (h hc)

theorem layDigits_plain {ds : List Char} (power : Int) (h : ds.all isPlainChar = true) :
    (layDigits ds power).all isPlainChar = true := by
  unfold layDigits
  split
  · rw [List.all_append, h, replicate_zero_plain]; rfl
  · have hpad : ∀ k, (List.replicate k '0' ++ ds).all isPlainChar = true := fun k => by
      rw [List.all_append, replicate_zero_plain, h]; rfl
    rw [List.all_append, List.all_cons, plain_of_subset (List.take_subset _ _) (hpad _),
      plain_of_subset (List.drop_subset _ _) (hpad _)]
    rfl

@[simp] theorem sign_plain (x : Binary64) : x.sign.all isPlainChar = true := by
  unfold Binary64.sign
  split <;> rfl

theorem positional_plain (x : Binary64) : x.positional.all isPlainChar = true := by
  unfold Binary64.positional
  split
  · rw [List.all_append, sign_plain]; rfl
  · rw [List.all_append, sign_plain, layDigits_plain _ (natDigits_plain _)]; rfl

/-- An exact decimal holds digits, signs and points only. -/
theorem plain_of_isDecimal {cs : List Char} (h : isDecimal cs = true) : cs.all isPlainChar = true := by
  have hdigits : ∀ {ds : List Char}, isDigits ds = true → ds.all isPlainChar = true := fun hd =>
    List.all_eq_true.mpr fun c hc => isPlainChar_of_isDigit (List.all_eq_true.mp hd c hc)
  have hbody : (withoutSign cs).all isPlainChar = true := by
    unfold isDecimal at h
    cases hcut : Text.cutAt? '.' (withoutSign cs) with
    | none =>
      simp only [hcut, Bool.and_eq_true] at h
      exact hdigits h.1
    | some parts =>
      obtain ⟨whole, fraction⟩ := parts
      simp only [hcut, Bool.and_eq_true] at h
      rw [Text.eq_of_cutAt? hcut, List.all_append, List.all_cons, hdigits h.1.1, hdigits h.1.2]
      rfl
  unfold withoutSign at hbody
  split at hbody
  · rw [List.all_cons, hbody]; rfl
  · rw [List.all_cons, hbody]; rfl
  · exact hbody

/-! ## Printed dates and times -/

@[simp] theorem yearText_plain (y : Int) : (Date.yearText y).all isPlainChar = true := by
  unfold Date.yearText
  split
  · exact paddedDigits_plain _ _
  · rw [List.all_cons, paddedDigits_plain]
    split <;> rfl

@[simp] theorem date_plain (d : Date) : d.text.all isPlainChar = true := by
  simp only [Date.text, List.all_append, List.all_cons, yearText_plain, paddedDigits_plain]
  rfl

@[simp] theorem fractionText_plain (n : Nat) : (Clock.fractionText n).all isPlainChar = true := by
  have hpoint : ∀ w k, ('.' :: paddedDigits w k).all isPlainChar = true := fun w k => by
    rw [List.all_cons, paddedDigits_plain]; rfl
  unfold Clock.fractionText
  split
  · rfl
  split
  · exact hpoint _ _
  split
  · exact hpoint _ _
  · exact hpoint _ _

@[simp] theorem clock_plain (t : Clock) : t.text.all isPlainChar = true := by
  simp only [Clock.text, List.all_append, List.all_cons, paddedDigits_plain, fractionText_plain]
  rfl

@[simp] theorem moment_plain (t : Moment) : t.text.all isPlainChar = true := by
  simp only [Moment.text, Moment.textWith, List.all_append, List.all_cons, date_plain, clock_plain]
  rfl

theorem zonedLiteral_plain (f : Format) (t : Moment) : (zonedLiteral f t).all isPlainChar = true := by
  cases f with
  | copy => rw [zonedLiteral, List.all_append, moment_plain]; rfl
  | loadData => exact moment_plain t

/-! ## Literals of values -/

/-- The bytes of a value in a payload before they are escaped; a missing value has none. -/
def Value.literal? (f : Format) (v : Value) : Option Bytes :=
  match v with
  | .null => none
  | .text s => some (Bytes.ofString s)
  | .bytes bs =>
    match f with
    | .copy => some (Bytes.backslash :: Bytes.ofAscii 'x' :: Bytes.ofChars (bs.flatMap hexPair))
    | .loadData => some bs
  | v => (encodeField f v).toOption

theorem ofString_eq_ofChars (s : String) : Bytes.ofString s = Bytes.ofChars s.toList := by
  rw [Bytes.ofString, ← String.utf8Encode_toList, List.utf8Encode]
  simp [Bytes.ofChars]

theorem hexPair_plain (bs : Bytes) : (bs.flatMap hexPair).all isPlainChar = true := by
  have hdigit : ∀ n < 16, isPlainChar (hexDigit n) = true := by decide
  refine List.all_eq_true.mpr fun c hc => ?_
  obtain ⟨b, _, hb⟩ := List.mem_flatMap.mp hc
  have hlt := b.toNat_lt
  rcases List.mem_cons.mp hb with rfl | hb
  · exact hdigit _ (by omega)
  · rw [List.mem_singleton.mp hb]; exact hdigit _ (by omega)

/-- The hexadecimal form of raw bytes, with its backslash escaped. -/
theorem escape_hex (f : Format) (bs : Bytes) :
    escape f (Bytes.backslash :: Bytes.ofAscii 'x' :: Bytes.ofChars (bs.flatMap hexPair)) =
      .ok (Bytes.ofChars ('\\' :: '\\' :: 'x' :: bs.flatMap hexPair)) := by
  have hx : Bytes.ofAscii 'x' :: Bytes.ofChars (bs.flatMap hexPair) = Bytes.ofChars ('x' :: bs.flatMap hexPair) := rfl
  have hplain : ('x' :: bs.flatMap hexPair).all isPlainChar = true := by
    rw [List.all_cons, hexPair_plain]; rfl
  rw [hx, escape, escape_ofChars_of_plain hplain]
  rfl

/-- A double needs no escape. -/
theorem escape_floatLiteral {f : Format} {x : Binary64} {field : Bytes} (h : floatLiteral f x = .ok field) :
    escape f field = .ok field := by
  unfold floatLiteral at h
  split at h
  · cases h; exact escape_ofChars_of_plain (positional_plain x)
  cases f with
  | loadData => cases h
  | copy =>
    cases h
    apply escape_ofChars_of_plain
    split
    · rfl
    · rw [List.all_append, sign_plain]; rfl

/-- **A field is the escaped form of the literal of its value**, unless the value is missing. -/
theorem encodeField_eq_escape {f : Format} {v : Value} {field : Bytes} (h : encodeField f v = .ok field)
    (hv : v ≠ .null) : ∃ lit, v.literal? f = some lit ∧ escape f lit = .ok field := by
  -- A value whose field needs no escape is its own literal.
  have hself : ∀ {u : Value}, encodeField f u = .ok field → escape f field = .ok field →
      ∃ lit, (encodeField f u).toOption = some lit ∧ escape f lit = .ok field := fun hu he =>
    ⟨field, by rw [hu]; rfl, he⟩
  cases v with
  | null => exact absurd rfl hv
  | bool b =>
    refine hself h ?_
    cases h
    cases f <;> cases b <;> rfl
  | int i => exact hself h (by cases h; exact escape_ofChars_of_plain (intDigits_plain _))
  | float x => exact hself h (escape_floatLiteral h)
  | decimal digits =>
    refine hself h ?_
    rw [encodeField] at h
    split at h
    · next hd =>
      cases h
      rw [ofString_eq_ofChars]
      exact escape_ofChars_of_plain (plain_of_isDecimal hd)
    · cases h
  | text s => exact ⟨_, rfl, h⟩
  | bytes bs =>
    cases f with
    | copy => cases h; exact ⟨_, rfl, escape_hex _ bs⟩
    | loadData => exact ⟨_, rfl, h⟩
  | date d => exact hself h (by cases h; exact escape_ofChars_of_plain (date_plain d))
  | time t => exact hself h (by cases h; exact escape_ofChars_of_plain (clock_plain t))
  | timestamp t => exact hself h (by cases h; exact escape_ofChars_of_plain (moment_plain t))
  | timestampTz t => exact hself h (by cases h; exact escape_ofChars_of_plain (zonedLiteral_plain f t))

/-- Only a missing value has no literal. -/
theorem literal?_eq_none_iff {f : Format} {v : Value} {field : Bytes} (h : encodeField f v = .ok field) :
    v.literal? f = none ↔ v = .null := by
  constructor
  · intro hn
    refine Decidable.byContradiction fun hv => ?_
    obtain ⟨lit, hlit, _⟩ := encodeField_eq_escape h hv
    rw [hn] at hlit
    cases hlit
  · rintro rfl
    rfl

/-! ## Reading fields back -/

/-- **A server reads a field as the literal of its value.** -/
theorem readField_encodeField {f : Format} {v : Value} {field : Bytes} (h : encodeField f v = .ok field) :
    readField f field = .ok (v.literal? f) := by
  by_cases hv : v = .null
  · subst hv; cases h; exact readField_nullMarker f
  · obtain ⟨lit, hlit, he⟩ := encodeField_eq_escape h hv
    rw [hlit]
    exact readField_escape he

/-- A field holds neither a tab nor a line feed. -/
theorem not_mem_encodeField {f : Format} {v : Value} {field : Bytes} (h : encodeField f v = .ok field) :
    Bytes.tab ∉ field ∧ Bytes.lineFeed ∉ field := by
  by_cases hv : v = .null
  · subst hv; cases h; decide
  · obtain ⟨lit, _, he⟩ := encodeField_eq_escape h hv
    exact not_mem_escape he

/-- A field is not the line that ends a payload. -/
theorem encodeField_ne_endMarker {f : Format} {v : Value} {field : Bytes} (h : encodeField f v = .ok field) :
    field ≠ endMarker := by
  by_cases hv : v = .null
  · subst hv; cases h; decide
  · obtain ⟨lit, _, he⟩ := encodeField_eq_escape h hv
    exact escape_ne_endMarker he

end BulkLoad
