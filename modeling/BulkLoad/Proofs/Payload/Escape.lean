import BulkLoad.Payload

/-!
# Escapes are read back

Reading undoes escaping, one byte at a time (`unescape_escapeByte`), and hence for a whole field (`unescape_escape`).
An escaped field is never taken for the mark of a missing value or for the line that ends a payload
(`escape_ne_nullMarker`, `escape_ne_endMarker`), so a server reads it as a field with exactly the escaped bytes
(`readField_escape`). Bytes that need no escape are their own escaped form (`escape_of_plain`).
-/

namespace BulkLoad

variable {f : Format}

/-! ## One escape -/

theorem unescape_nil (f : Format) : unescape f [] = some [] := by rw [unescape]

/-- A byte other than the backslash stands for itself. -/
theorem unescape_cons {b : UInt8} (h : b ≠ Bytes.backslash) (bs : Bytes) :
    unescape f (b :: bs) = (unescape f bs).map (b :: ·) := by
  rw [unescape.eq_def]
  exact if_pos h

/-- A backslash and the byte after it are read together. -/
theorem unescape_backslash (f : Format) (c : UInt8) (cs : Bytes) :
    unescape f (Bytes.backslash :: c :: cs) =
      (unescape f (readEscape f c cs).2).map ((readEscape f c cs).1 :: ·) := by
  rw [unescape, if_neg (fun h => h rfl)]

/-- An escape that takes no further bytes. -/
theorem unescape_of_readEscape {c e : UInt8} {cs : Bytes} (h : readEscape f c cs = (e, cs)) :
    unescape f (Bytes.backslash :: c :: cs) = (unescape f cs).map (e :: ·) := by
  rw [unescape_backslash, h]

theorem readEscape_of_letter {c e : UInt8} (h : letterEscape? c = some e) (f : Format) (cs : Bytes) :
    readEscape f c cs = (e, cs) := by
  simp only [readEscape, h]

theorem readEscape_backslash (f : Format) (cs : Bytes) :
    readEscape f Bytes.backslash cs = (Bytes.backslash, cs) := by
  cases f <;> rfl

/-- The escaped form of a byte is read as that byte, whatever follows. -/
theorem unescape_escapeByte {b : UInt8} {x : Bytes} (h : escapeByte f b = .ok x) (rest : Bytes) :
    unescape f (x ++ rest) = (unescape f rest).map (b :: ·) := by
  unfold escapeByte at h
  split at h
  · next hb => cases h; subst hb; exact unescape_of_readEscape (readEscape_backslash f rest)
  split at h
  · next hb => cases h; subst hb; exact unescape_of_readEscape (readEscape_of_letter rfl f rest)
  split at h
  · next hb => cases h; subst hb; exact unescape_of_readEscape (readEscape_of_letter rfl f rest)
  split at h
  · next hb => cases h; subst hb; exact unescape_of_readEscape (readEscape_of_letter rfl f rest)
  split at h
  · next hb =>
    subst hb
    cases f with
    | copy => cases h
    | loadData => cases h; exact unescape_of_readEscape rfl
  · next hb _ _ _ _ => cases h; exact unescape_cons hb rest

/-! ## Whole fields -/

/-- The head and the tail of an escaped sequence. -/
theorem escape_cons_eq_ok {b : UInt8} {bs x : Bytes} (h : escape f (b :: bs) = .ok x) :
    ∃ head tail, escapeByte f b = .ok head ∧ escape f bs = .ok tail ∧ x = head ++ tail := by
  rw [escape] at h
  split at h
  · cases h
  next head hh =>
  split at h
  · cases h
  next tail ht =>
  cases h
  exact ⟨head, tail, hh, ht, rfl⟩

/-- **Reading undoes escaping.** -/
theorem unescape_escape : ∀ {bs x : Bytes}, escape f bs = .ok x → unescape f x = some bs
  | [], x, h => by cases h; exact unescape_nil f
  | b :: bs, x, h => by
    obtain ⟨head, tail, hh, ht, rfl⟩ := escape_cons_eq_ok h
    rw [unescape_escapeByte hh, unescape_escape ht]
    rfl

/-- Text with a NUL byte has no escaped form in `copy`. -/
theorem zero_not_mem_of_escape_copy : ∀ {bs x : Bytes}, escape .copy bs = .ok x → 0 ∉ bs
  | [], _, _ => List.not_mem_nil
  | b :: bs, x, h => by
    obtain ⟨head, tail, hh, ht, rfl⟩ := escape_cons_eq_ok h
    intro hm
    rcases List.mem_cons.mp hm with h0 | h0
    · subst h0; cases hh
    · exact zero_not_mem_of_escape_copy ht h0

/-- Every byte sequence has an escaped form, but for a NUL byte in `copy`. -/
theorem exists_escape : ∀ {bs : Bytes}, (f = .copy → 0 ∉ bs) → ∃ x, escape f bs = .ok x
  | [], _ => ⟨[], rfl⟩
  | b :: bs, h => by
    have hbyte : ∃ head, escapeByte f b = .ok head := by
      by_cases hb : b = 0
      · subst hb
        cases f with
        | copy => exact absurd List.mem_cons_self (h rfl)
        | loadData => exact ⟨_, rfl⟩
      · unfold escapeByte
        simp only [if_neg hb]
        repeat' split
        all_goals exact ⟨_, rfl⟩
    obtain ⟨head, hhead⟩ := hbyte
    have hrest : f = .copy → 0 ∉ bs := fun hf hm => h hf (List.mem_cons_of_mem _ hm)
    obtain ⟨tail, htail⟩ := exists_escape hrest
    exact ⟨head ++ tail, by rw [escape, hhead, htail]⟩

/-- An escaped field is not the mark of a missing value: that mark would be read as an `N`, which is not escaped. -/
theorem escape_ne_nullMarker {bs x : Bytes} (h : escape f bs = .ok x) : x ≠ nullMarker := by
  intro hx
  have hread : unescape f nullMarker = some [Bytes.ofAscii 'N'] := by
    rw [nullMarker, unescape_backslash]
    cases f <;> exact congrArg _ (unescape_nil _)
  have hbs := unescape_escape h
  rw [hx, hread] at hbs
  cases hbs
  cases h
  exact absurd hx (by decide)

/-- An escaped field is not the line that ends a payload: that line would be read as a point, which is not escaped. -/
theorem escape_ne_endMarker {bs x : Bytes} (h : escape f bs = .ok x) : x ≠ endMarker := by
  intro hx
  have hread : unescape f endMarker = some [Bytes.ofAscii '.'] := by
    rw [endMarker, unescape_backslash]
    cases f <;> exact congrArg _ (unescape_nil _)
  have hbs := unescape_escape h
  rw [hx, hread] at hbs
  cases hbs
  cases h
  exact absurd hx (by decide)

/-- **A server reads an escaped field as the bytes that were escaped.** -/
theorem readField_escape {bs x : Bytes} (h : escape f bs = .ok x) : readField f x = .ok (some bs) := by
  rw [readField, if_neg (escape_ne_nullMarker h), unescape_escape h]
  have hnul : ¬ (f = .copy ∧ 0 ∈ bs) := by
    rintro ⟨rfl, hm⟩
    exact zero_not_mem_of_escape_copy h hm
  exact if_neg hnul

theorem readField_nullMarker (f : Format) : readField f nullMarker = .ok none := by
  rw [readField, if_pos rfl]

/-! ## Bytes that need no escape -/

/-- A byte that stands for itself in a payload. -/
def isPlainByte (b : UInt8) : Bool :=
  b ≠ Bytes.backslash && b ≠ Bytes.tab && b ≠ Bytes.lineFeed && b ≠ Bytes.carriageReturn && b ≠ 0

theorem escapeByte_of_plain {b : UInt8} (h : isPlainByte b = true) : escapeByte f b = .ok [b] := by
  simp only [isPlainByte, Bool.and_eq_true, decide_eq_true_eq] at h
  obtain ⟨⟨⟨⟨h1, h2⟩, h3⟩, h4⟩, h5⟩ := h
  simp only [escapeByte, if_neg h1, if_neg h2, if_neg h3, if_neg h4, if_neg h5]

theorem escape_of_plain : ∀ {bs : Bytes}, (∀ b ∈ bs, isPlainByte b = true) → escape f bs = .ok bs
  | [], _ => rfl
  | b :: bs, h => by
    have hb := escapeByte_of_plain (f := f) (h b List.mem_cons_self)
    have hbs := escape_of_plain (fun c hc => h c (List.mem_cons_of_mem _ hc))
    simp only [escape, hb, hbs, List.singleton_append]

/-- A character of printed numbers, dates and names: visible ASCII or the space, but not the backslash. -/
def isPlainChar (c : Char) : Bool := 0x20 ≤ c.toNat && c.toNat < 0x7f && c ≠ '\\'

theorem utf8EncodeChar_of_lt {c : Char} (h : c.toNat < 0x7f) : String.utf8EncodeChar c = [c.toNat.toUInt8] := by
  have hv : c.val.toNat ≤ 0x7f := Nat.le_of_lt h
  simp only [String.utf8EncodeChar, if_pos hv]
  rfl

theorem isPlainByte_of_isPlainChar {c : Char} (h : isPlainChar c = true) : isPlainByte c.toNat.toUInt8 = true := by
  have hall : ∀ n < 0x7f, 0x20 ≤ n → n ≠ 0x5c → isPlainByte n.toUInt8 = true := by decide
  simp only [isPlainChar, Bool.and_eq_true, decide_eq_true_eq] at h
  refine hall _ h.1.2 h.1.1 fun hn => h.2 ?_
  exact Char.toNat_inj.1 hn

/-- Plain characters have plain bytes. -/
theorem isPlainByte_of_mem_ofChars {cs : List Char} (h : cs.all isPlainChar = true) :
    ∀ b ∈ Bytes.ofChars cs, isPlainByte b = true := by
  intro b hb
  obtain ⟨c, hc, hbc⟩ := List.mem_flatMap.mp hb
  have hplain := List.all_eq_true.mp h c hc
  have hlt : c.toNat < 0x7f := by
    simp only [isPlainChar, Bool.and_eq_true, decide_eq_true_eq] at hplain
    exact hplain.1.2
  rw [utf8EncodeChar_of_lt hlt, List.mem_singleton] at hbc
  subst hbc
  exact isPlainByte_of_isPlainChar hplain

/-- Text of plain characters is its own escaped form. -/
theorem escape_ofChars_of_plain {cs : List Char} (h : cs.all isPlainChar = true) :
    escape f (Bytes.ofChars cs) = .ok (Bytes.ofChars cs) :=
  escape_of_plain (isPlainByte_of_mem_ofChars h)

end BulkLoad
