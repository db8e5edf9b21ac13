/-!
# Bytes and the text they spell

Payloads are lists of bytes. This module holds the bytes that have a meaning in a payload, the UTF-8 view of text
(`Bytes.ofString`, `Bytes.text?`) and hexadecimal digits.

- `Bytes.text?_ofString`: the bytes of a text spell that text;
- `hexValue?_hexDigit`: a hexadecimal digit is read back as the number it was printed for.
-/

namespace BulkLoad

/-- A finite sequence of bytes. -/
abbrev Bytes := List UInt8

namespace Bytes

/-- Horizontal tab, which separates the fields of a payload line. -/
def tab : UInt8 := 0x09

/-- Line feed, which ends a payload line. -/
def lineFeed : UInt8 := 0x0a

/-- Carriage return. -/
def carriageReturn : UInt8 := 0x0d

/-- The backslash, which starts an escape. -/
def backslash : UInt8 := 0x5c

/-- The byte of an ASCII character. -/
def ofAscii (c : Char) : UInt8 := c.toNat.toUInt8

/-- The UTF-8 bytes of a character sequence. -/
def ofChars (cs : List Char) : Bytes := cs.flatMap String.utf8EncodeChar

/-- The UTF-8 bytes of a text. -/
def ofString (s : String) : Bytes := s.toByteArray.data.toList

/-- The text that the bytes spell in UTF-8, if they are well-formed. -/
def text? (bs : Bytes) : Option String := String.fromUTF8? ⟨bs.toArray⟩

theorem text?_ofString (s : String) : text? (ofString s) = some s := by
  have h : (⟨(ofString s).toArray⟩ : ByteArray) = s.toByteArray := by simp [ofString]
  rw [text?, h, String.fromUTF8?, dif_pos s.isValidUTF8]
  rfl

@[simp] theorem ofChars_nil : ofChars [] = [] := rfl

@[simp] theorem ofChars_append (a b : List Char) : ofChars (a ++ b) = ofChars a ++ ofChars b := by
  simp [ofChars]

/-- The lines of a byte sequence: cut after each line feed, which is dropped. -/
def lines (bs : Bytes) : List Bytes :=
  let parts := bs.splitOn lineFeed
  if parts.getLast? = some [] then parts.dropLast else parts

end Bytes

/-! ## Hexadecimal digits -/

/-- The lower-case hexadecimal digit of a number below sixteen. -/
def hexDigit (n : Nat) : Char :=
  if n < 10 then Char.ofNat ('0'.toNat + n) else Char.ofNat ('a'.toNat + (n - 10))

/-- The number that a hexadecimal digit of either case stands for. -/
def hexValue? (c : Char) : Option Nat :=
  if '0' ≤ c ∧ c ≤ '9' then some (c.toNat - '0'.toNat)
  else if 'a' ≤ c ∧ c ≤ 'f' then some (c.toNat - 'a'.toNat + 10)
  else if 'A' ≤ c ∧ c ≤ 'F' then some (c.toNat - 'A'.toNat + 10)
  else none

theorem hexValue?_hexDigit : ∀ n < 16, hexValue? (hexDigit n) = some n := by decide

/-- The two lower-case hexadecimal digits of a byte. -/
def hexPair (b : UInt8) : List Char := [hexDigit (b.toNat / 16), hexDigit (b.toNat % 16)]

/-- The number that a hexadecimal digit byte stands for. -/
def hexByte? (b : UInt8) : Option Nat := if b < 0x80 then hexValue? (Char.ofNat b.toNat) else none

end BulkLoad
