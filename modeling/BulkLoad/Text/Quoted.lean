import BulkLoad.Text.Invisible
import BulkLoad.Text.Bytes

/-!
# Quoted text

The form in which messages show a text or a number of bytes so that nothing in it is lost: in double quotes, with
escapes for the quote, the backslash, the common controls and, by number, every character without a glyph.

- `quoteChar_of_visible`: a visible character other than the quote and the backslash stands for itself.
-/

namespace BulkLoad.Text

/-- The lower-case hexadecimal digits of a number. -/
def hexDigits (n : Nat) : List Char := Nat.toDigits 16 n

/-- The quoted form of one character. -/
def quoteChar (c : Char) : List Char :=
  if c = '"' then ['\\', '"']
  else if c = '\\' then ['\\', '\\']
  else if c = '\n' then ['\\', 'n']
  else if c = '\r' then ['\\', 'r']
  else if c = '\t' then ['\\', 't']
  else if c.toNat = 0 then ['\\', '0']
  else if isInvisible c then ['\\', 'u', '\x7b'] ++ hexDigits c.toNat ++ ['\x7d']
  else [c]

theorem quoteChar_of_visible {c : Char} (hq : c ≠ '"') (hb : c ≠ '\\') (hc : ' ' ≤ c) (hv : isInvisible c = false) :
    quoteChar c = [c] := by
  have h : ∀ d : Char, d < ' ' → c ≠ d := fun d hd e => by subst e; exact absurd hc (Char.not_le.2 hd)
  have h0 : c.toNat ≠ 0 := fun e => by
    have : c = '\x00' := Char.toNat_inj.1 e
    exact h _ (by decide) this
  simp [quoteChar, hq, hb, hv, h0, h '\n' (by decide), h '\r' (by decide), h '\t' (by decide)]

/-- The quoted form of a character sequence. -/
def quoteChars (cs : List Char) : List Char := '"' :: (cs.flatMap quoteChar ++ ['"'])

/-- The quoted form of a text. -/
def quote (s : String) : String := String.ofList (quoteChars s.toList)

/-- A bracketed list of items that are already printed. -/
def bracketed (items : List String) : String := "[" ++ String.intercalate ", " items ++ "]"

/-- The bracketed list of byte values in decimal. -/
def byteList (bs : Bytes) : String := bracketed (bs.map fun b => toString b.toNat)

end BulkLoad.Text
