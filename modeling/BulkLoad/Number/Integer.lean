/-!
# Integers of bounded range

Decimal integers are printed with the fewest digits (`intDigits`) and read by a reader that knows its bounds
(`readInteger`): digit by digit from the left, refusing at the first character that is no digit and at the first digit
that takes the number out of range, whichever comes first.

- `magnitude_toDigits`: the digits printed for a number in range are read back as that number;
- `length_paddedDigits`: a number that fits into a width is filled up to it.
-/

namespace BulkLoad

/-- Why a text is no integer of the wanted range. -/
inductive IntegerError
  | empty
  | invalidDigit
  | tooLarge
  | tooSmall
deriving DecidableEq, Repr

/-- The wording of an integer error. -/
def IntegerError.message : IntegerError → String
  | .empty => "cannot parse integer from empty string"
  | .invalidDigit => "invalid digit found in string"
  | .tooLarge => "number too large to fit in target type"
  | .tooSmall => "number too small to fit in target type"

/-- The number below ten that a decimal digit stands for. -/
def digitValue (c : Char) : Nat := c.toNat - '0'.toNat

/-- The decimal digits of a natural number. -/
def natDigits (n : Nat) : List Char := Nat.toDigits 10 n

/-- The decimal digits of an integer, behind a minus sign when it is negative. -/
def intDigits (i : Int) : List Char := if i < 0 then '-' :: natDigits i.natAbs else natDigits i.natAbs

/-- The decimal digits of a natural number, filled up with zeros to a width. -/
def paddedDigits (width n : Nat) : List Char := List.replicate (width - (natDigits n).length) '0' ++ natDigits n

theorem length_paddedDigits {width n : Nat} (hw : 0 < width) (h : n < Nat.pow 10 width) :
    (paddedDigits width n).length = width := by
  have := (Nat.length_toDigits_le_iff (by decide) hw).2 h
  simp only [paddedDigits, natDigits, List.length_append, List.length_replicate] at this ⊢
  omega

/-! ## Reading -/

/-- Reads digits behind the number `acc`; a number above `limit` is refused as soon as it arises. -/
def magnitudeFrom (limit : Nat) (overflow : IntegerError) (acc : Nat) : List Char → Except IntegerError Nat
  | [] => .ok acc
  | c :: cs =>
    if !c.isDigit then .error .invalidDigit
    else if limit < acc * 10 + digitValue c then .error overflow
    else magnitudeFrom limit overflow (acc * 10 + digitValue c) cs

/-- Reads at least one digit as a number of at most `limit`. -/
def magnitude (limit : Nat) (overflow : IntegerError) : List Char → Except IntegerError Nat
  | [] => .error .invalidDigit
  | cs => magnitudeFrom limit overflow 0 cs

/-- Reads an integer from `-below` to `above` with an optional sign. -/
def readInteger (below above : Nat) : List Char → Except IntegerError Int
  | [] => .error .empty
  | '+' :: cs => (magnitude above .tooLarge cs).map Int.ofNat
  | '-' :: cs => (magnitude below .tooSmall cs).map fun n => -(n : Int)
  | cs => (magnitude above .tooLarge cs).map Int.ofNat

/-- Reads a 64-bit integer. -/
def readInt64 (cs : List Char) : Except IntegerError Int64 :=
  (readInteger (Nat.pow 2 63) (Nat.pow 2 63 - 1) cs).map Int64.ofInt

/-- Reads an unsigned 64-bit integer; a minus sign is no part of one. -/
def readNat64 : List Char → Except IntegerError Nat
  | [] => .error .empty
  | '+' :: cs => magnitude (Nat.pow 2 64 - 1) .tooLarge cs
  | cs => magnitude (Nat.pow 2 64 - 1) .tooLarge cs

/-! ## Reading back what was printed -/

theorem magnitudeFrom_eq {limit : Nat} {e : IntegerError} {cs : List Char} (hd : ∀ c ∈ cs, c.isDigit = true) :
    ∀ acc, Nat.ofDigitChars 10 cs acc ≤ limit → magnitudeFrom limit e acc cs = .ok (Nat.ofDigitChars 10 cs acc) := by
  have mono : ∀ (ds : List Char) (a : Nat), a ≤ Nat.ofDigitChars 10 ds a := by
    intro ds
    induction ds with
    | nil => intro a; exact Nat.le_refl _
    | cons d ds ih =>
      intro a
      have := ih (10 * a + (d.toNat - '0'.toNat))
      simp only [Nat.ofDigitChars, List.foldl_cons] at this ⊢
      omega
  induction cs with
  | nil => intro acc _; rfl
  | cons c cs ih =>
    intro acc h
    have hc : c.isDigit = true := hd c (by simp)
    have hstep : Nat.ofDigitChars 10 (c :: cs) acc = Nat.ofDigitChars 10 cs (acc * 10 + digitValue c) := by
      simp [Nat.ofDigitChars, digitValue, Nat.mul_comm]
    rw [hstep] at h ⊢
    have hle : acc * 10 + digitValue c ≤ limit := Nat.le_trans (mono cs _) h
    rw [magnitudeFrom, hc]
    simp only [Bool.not_true, Bool.false_eq_true, if_false, if_neg (Nat.not_lt.2 hle)]
    exact ih (fun d hm => hd d (by simp [hm])) _ h

theorem magnitude_toDigits {limit n : Nat} (e : IntegerError) (h : n ≤ limit) :
    magnitude limit e (natDigits n) = .ok n := by
  have hd : ∀ c ∈ natDigits n, c.isDigit = true := fun c hc =>
    Nat.isDigit_of_mem_toDigits (by decide) (by decide) hc
  have hv : Nat.ofDigitChars 10 (natDigits n) 0 = n := Nat.ofDigitChars_toDigits (by decide) (by decide)
  have hle : Nat.ofDigitChars 10 (natDigits n) 0 ≤ limit := by omega
  have hm := magnitudeFrom_eq (e := e) hd 0 hle
  cases hcs : natDigits n with
  | nil => exact absurd hcs Nat.toDigits_ne_nil
  | cons c cs => rw [hcs] at hm hv; rw [magnitude, hm, hv]; simp

end BulkLoad
