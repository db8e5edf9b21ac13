/-!
# Double-precision numbers by their bits

A finite double is `± significand · 2 ^ power` (`Binary64.significand`, `Binary64.power`). The other direction is one
rounding function: `Binary64.ofRatio` gives the double nearest to a quotient of natural numbers, of two equally near
ones that with an even significand. Products, quotients and the reading of decimals are exact quotients behind it.

- `roundHalfEven_le`, `le_roundHalfEven`: rounding moves a quotient by at most one half;
- `roundHalfEven_mul`: a quotient that is a whole number stays as it is.
-/

namespace BulkLoad

/-- A double-precision number, by its sixty-four bits. -/
structure Binary64 where
  bits : UInt64
deriving DecidableEq, Repr

/-- The whole number nearest to a quotient; of two equally near ones the even one. -/
def roundHalfEven (num den : Nat) : Nat :=
  let q := num / den
  let r := num % den
  if 2 * r < den then q else if den < 2 * r then q + 1 else q + q % 2

theorem roundHalfEven_le {num den : Nat} (h : 0 < den) : 2 * (den * roundHalfEven num den) ≤ 2 * num + den := by
  have hd := Nat.div_add_mod num den
  have hr := Nat.mod_lt num h
  have hm : num / den % 2 ≤ 1 := by omega
  have hk : den * (num / den % 2) ≤ den * 1 := Nat.mul_le_mul_left den hm
  unfold roundHalfEven
  simp only
  split
  · omega
  split
  · rw [Nat.mul_add, Nat.mul_one]; omega
  · rw [Nat.mul_add]; omega

theorem le_roundHalfEven {num den : Nat} (h : 0 < den) : 2 * num ≤ 2 * (den * roundHalfEven num den) + den := by
  have hd := Nat.div_add_mod num den
  have hr := Nat.mod_lt num h
  unfold roundHalfEven
  simp only
  split
  · omega
  split
  · rw [Nat.mul_add, Nat.mul_one]; omega
  · rw [Nat.mul_add]; omega

theorem roundHalfEven_mul {n den : Nat} (h : 0 < den) : roundHalfEven (n * den) den = n := by
  simp [roundHalfEven, h]

namespace Binary64

/-! ## The parts of a double -/

/-- Does the number carry a minus sign? -/
def isNegative (x : Binary64) : Bool := Nat.pow 2 63 ≤ x.bits.toNat

/-- The eleven bits of the exponent field. -/
def exponentField (x : Binary64) : Nat := x.bits.toNat / Nat.pow 2 52 % Nat.pow 2 11

/-- The fifty-two bits of the fraction field. -/
def fractionField (x : Binary64) : Nat := x.bits.toNat % Nat.pow 2 52

/-- Neither an infinity nor a NaN. -/
def isFinite (x : Binary64) : Bool := x.exponentField ≠ 2047

/-- No number at all. -/
def isNaN (x : Binary64) : Bool := x.exponentField = 2047 && x.fractionField ≠ 0

/-- The factor of a finite number's magnitude that is a natural number. -/
def significand (x : Binary64) : Nat :=
  if x.exponentField = 0 then x.fractionField else Nat.pow 2 52 + x.fractionField

/-- The power of two in a finite number's magnitude. -/
def power (x : Binary64) : Int :=
  if x.exponentField = 0 then -1074 else (x.exponentField : Int) - 1075

/-! ## Building doubles -/

/-- The double with the given sign and magnitude bits. -/
def ofMagnitude (negative : Bool) (magnitude : Nat) : Binary64 :=
  ⟨(if negative then Nat.pow 2 63 + magnitude else magnitude).toUInt64⟩

/-- The magnitude bits of infinity. -/
def infinityBits : Nat := 2047 * Nat.pow 2 52

/-- The infinity of the given sign. -/
def infinity (negative : Bool) : Binary64 := ofMagnitude negative infinityBits

/-- The NaN of the given sign. -/
def nan (negative : Bool) : Binary64 := ofMagnitude negative (infinityBits + Nat.pow 2 51)

/-- The exponent `e` with `2 ^ e ≤ num / den < 2 ^ (e + 1)`, for a positive quotient. -/
def floorLog2 (num den : Nat) : Int :=
  let l : Int := (num.log2 : Int) - den.log2
  let below : Bool := if 0 ≤ l then num < den * Nat.pow 2 l.toNat else num * Nat.pow 2 (-l).toNat < den
  if below then l - 1 else l

/-- The magnitude bits of the double nearest to a quotient. -/
def magnitudeOfRatio (num den : Nat) : Nat :=
  if num = 0 then 0
  else
    let e := max (floorLog2 num den - 52) (-1074)
    let q :=
      if 0 ≤ e then roundHalfEven num (den * Nat.pow 2 e.toNat) else roundHalfEven (num * Nat.pow 2 (-e).toNat) den
    min ((e + 1074).toNat * Nat.pow 2 52 + q) infinityBits

/-- The double nearest to `± num / den`; too large a quotient gives infinity. -/
def ofRatio (negative : Bool) (num den : Nat) : Binary64 := ofMagnitude negative (magnitudeOfRatio num den)

/-- The double nearest to `± m · 2 ^ e`. -/
def ofScaled (negative : Bool) (m : Nat) (e : Int) : Binary64 :=
  if 0 ≤ e then ofRatio negative (m * Nat.pow 2 e.toNat) 1 else ofRatio negative m (Nat.pow 2 (-e).toNat)

/-- The double nearest to a natural number. -/
def ofNat (n : Nat) : Binary64 := ofRatio false n 1

/-- The double with the opposite sign. -/
def neg (x : Binary64) : Binary64 := ofMagnitude (!x.isNegative) (x.bits.toNat % Nat.pow 2 63)

/-- The rounded product of two finite doubles. -/
def mul (x y : Binary64) : Binary64 :=
  ofScaled (x.isNegative != y.isNegative) (x.significand * y.significand) (x.power + y.power)

/-- The rounded quotient of two finite doubles, the second of which is not zero. -/
def div (x y : Binary64) : Binary64 :=
  let e := x.power - y.power
  ofRatio (x.isNegative != y.isNegative) (x.significand * Nat.pow 2 e.toNat) (y.significand * Nat.pow 2 (-e).toNat)

/-- The double with the value of a single-precision number, given by its thirty-two bits. -/
def ofBinary32 (word : UInt32) : Binary64 :=
  let n := word.toNat
  let negative : Bool := Nat.pow 2 31 ≤ n
  let exponent : Nat := n / Nat.pow 2 23 % Nat.pow 2 8
  let fraction : Nat := n % Nat.pow 2 23
  if exponent = 255 then ofMagnitude negative (infinityBits + fraction * Nat.pow 2 29)
  else if exponent = 0 then ofScaled negative fraction (-149)
  else ofScaled negative (Nat.pow 2 23 + fraction) ((exponent : Int) - 150)

/-! ## Decimals -/

/-- The double nearest to `± n · 10 ^ e`. Magnitudes far outside the range of doubles are answered without computing
the power. -/
def ofDecimal (negative : Bool) (n : Nat) (e : Int) : Binary64 :=
  let digits : Int := (Nat.toDigits 10 n).length
  if n = 0 then ofMagnitude negative 0
  else if 400 < e + digits then infinity negative
  else if e + digits < -400 then ofMagnitude negative 0
  else if 0 ≤ e then ofRatio negative (n * Nat.pow 10 e.toNat) 1
  else ofRatio negative n (Nat.pow 10 (-e).toNat)

end Binary64

end BulkLoad
