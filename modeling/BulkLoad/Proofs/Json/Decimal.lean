import BulkLoad.Input
import BulkLoad.Proofs.Json.Literal
import BulkLoad.Proofs.Number.Shortest

/-!
# Numbers in decimal columns

A number in a decimal column becomes the decimal that is printed for it. Integers of 64 bits are printed as they are
written. All other numbers pass through a double, and so they are exact only if they are the shortest decimal of this
double, and are taken by the formats only if they are printed without an exponent.

- `NumberLiteral.IsShort.take?`: the double of a literal with at most fifteen digits is rounded once;
- `NumberLiteral.exists_exact`, `NumberLiteral.exists_refused`: what becomes of such a literal;
- `decimal_of_literal`: what becomes of any literal; `not_decimal_of_literal`: long ones are not exact.
-/

namespace BulkLoad

open List

/-! ## Held numbers as decimals -/

namespace JsonNumber

/-- The number that is printed for a held one. -/
def printed : JsonNumber → ℚ
  | natural n => n
  | negative i => i
  | float x => x.printed

/-- The number is printed without an exponent. -/
def Positional : JsonNumber → Prop
  | float x => x.Positional
  | _ => True

/-- Digits with an optional minus are a decimal of their number. -/
theorem written_digits {sign : List Char} (hsign : IsSign sign) (n : Nat) :
    WrittenDecimal (sign ++ natDigits n) ∧ decimalValue (sign ++ natDigits n) = signFactor sign * n := by
  have hvalue := decimalValue_pointed hsign (isNumeral_natDigits n) []
  simp only [pointed, append_nil, digitsValue_natDigits, length_nil, pow_zero, div_one] at hvalue
  exact ⟨.whole hsign (isNumeral_natDigits n), hvalue⟩

/-- **A number without an exponent is printed as a decimal.** -/
theorem Positional.written : ∀ {n : JsonNumber}, n.Positional →
    WrittenDecimal n.chars ∧ decimalValue n.chars = n.printed
  | natural n, _ => by
    obtain ⟨hwritten, hvalue⟩ := written_digits .none n
    exact ⟨hwritten, hvalue.trans (one_mul _)⟩
  | negative i, _ => by
    rw [chars, intDigits, printed]
    split
    · next hi =>
      obtain ⟨hwritten, hvalue⟩ := written_digits .minus i.natAbs
      refine ⟨hwritten, hvalue.trans ?_⟩
      rw [signFactor, if_pos rfl, neg_one_mul]
      obtain ⟨m, rfl⟩ := Int.exists_eq_neg_ofNat hi.le
      simp
    · next hi =>
      obtain ⟨hwritten, hvalue⟩ := written_digits .none i.natAbs
      obtain ⟨m, rfl⟩ := Int.eq_ofNat_of_zero_le (not_lt.mp hi)
      exact ⟨hwritten, hvalue.trans (by simp [signFactor])⟩
  | float x, h => Binary64.Positional.written h

/-- **A number with an exponent is not printed as a decimal.** -/
theorem isDecimal_chars_iff {n : JsonNumber} : isDecimal n.chars = true ↔ n.Positional := by
  refine ⟨fun h => ?_, fun h => isDecimal_iff.mpr (Or.inl h.written.1)⟩
  cases n with
  | float x => exact Binary64.isDecimal_scientific_iff.mp h
  | _ => trivial

end JsonNumber

/-- Both formats take the decimal, and it denotes the number. -/
def IsExact (d : String) (r : ℚ) : Prop :=
  (∀ f, ∃ field, encodeField f (.decimal d) = .ok field) ∧ decimalValue d.toList = r

theorem takes_iff {f : Format} {n : JsonNumber} :
    (∃ field, encodeField f (.decimal (String.ofList n.chars)) = .ok field) ↔ n.Positional := by
  rw [encodeField_decimal_iff, ← isDecimal_iff, String.toList_ofList, JsonNumber.isDecimal_chars_iff]

/-- A number is exact when it is printed without an exponent and as what it is. -/
theorem isExact_iff {n : JsonNumber} {r : ℚ} : IsExact (String.ofList n.chars) r ↔ n.Positional ∧ n.printed = r := by
  have htakes : (∀ f, ∃ field, encodeField f (.decimal (String.ofList n.chars)) = .ok field) ↔ n.Positional :=
    ⟨fun h => takes_iff.mp (h .copy), fun h _ => takes_iff.mpr h⟩
  rw [IsExact, htakes, String.toList_ofList]
  exact and_congr_right fun h => by rw [h.written.2]

/-! ## Doubles of literals -/

namespace JsonNumber

open Binary64

variable {s : Nat} {e : ℤ}

/-- A power of ten that is a double. -/
theorem magnitude_tenPower {k : Nat} (hk : k ≤ 22) : (Binary64.ofNat (Nat.pow 10 k)).magnitude = 10 ^ k ∧
    0 < (Binary64.ofNat (Nat.pow 10 k)).significand ∧ (Binary64.ofNat (Nat.pow 10 k)).isNegative = false := by
  have hfive : 5 ^ k < 2 ^ 53 := (Nat.pow_le_pow_right (by decide) hk).trans_lt (by decide)
  have hten : Nat.pow 10 k = 5 ^ k * 2 ^ k := Nat.mul_pow 5 2 k
  have hfive' : 0 < 5 ^ k := Nat.pow_pos (by decide)
  obtain ⟨hmagnitude, hpos, hminus⟩ := magnitude_ofNat hfive' hfive (by omega : k ≤ 900)
  rw [hten]
  refine ⟨hmagnitude.trans ?_, hpos, hminus⟩
  push_cast
  rw [← mul_pow]
  norm_num

/-- A short significand with a small power of ten is neither very small nor very large. -/
theorem moderate_scaled (hs : 0 < s) (hs' : s < 10 ^ 15) (hlow : -22 ≤ e) (hhigh : e ≤ 22) :
    Moderate (s * 10 ^ e) := by
  have hone : (1 : ℚ) ≤ s := by exact_mod_cast hs
  have hlt : (s : ℚ) < 10 ^ 15 := by exact_mod_cast hs'
  constructor
  · calc (2 : ℚ) ^ (-1000 : ℤ) ≤ 2 ^ (-100 : ℤ) := zpow_le_zpow_right₀ (by norm_num) (by norm_num)
      _ ≤ 1 * 10 ^ (-22 : ℤ) := by norm_num
      _ ≤ s * 10 ^ e := by
        gcongr
        norm_num
  · calc (s * 10 ^ e : ℚ) < 10 ^ 15 * 10 ^ e := by gcongr
      _ ≤ 10 ^ 15 * 10 ^ (22 : ℤ) := by
        gcongr
        norm_num
      _ < 2 ^ (200 : ℤ) := by norm_num
      _ ≤ 2 ^ (1000 : ℤ) := zpow_le_zpow_right₀ (by norm_num) (by norm_num)

/-- A short significand is a double. -/
theorem magnitude_short (hs : 0 < s) (hs' : s < 10 ^ 15) : (Binary64.ofNat s).magnitude = s ∧
    0 < (Binary64.ofNat s).significand ∧ (Binary64.ofNat s).isNegative = false := by
  have hmagnitude := magnitude_ofNat hs (hs'.trans (by decide)) (Nat.zero_le 900)
  rwa [pow_zero, Nat.mul_one, pow_zero, mul_one] at hmagnitude

/-- A short significand and a small power of ten are doubles, and so only their quotient is rounded. -/
theorem rounds_div_tenPower (hs : 0 < s) (hs' : s < 10 ^ 15) {k : Nat} (hk : k ≤ 22) :
    ((Binary64.ofNat s).div (Binary64.ofNat (Nat.pow 10 k))).isNegative = false ∧
      ∃ q e, ((Binary64.ofNat s).div (Binary64.ofNat (Nat.pow 10 k))).Rounds (s * 10 ^ (-(k : ℤ))) q e := by
  obtain ⟨hm, hmpos, hmminus⟩ := magnitude_short hs hs'
  obtain ⟨hp, hppos, hpminus⟩ := magnitude_tenPower hk
  have hmoderate := @moderate_scaled s (-(k : ℤ)) hs hs' (by omega) (by omega)
  have hquotient : (s * 10 ^ (-(k : ℤ)) : ℚ) =
      (Binary64.ofNat s).magnitude / (Binary64.ofNat (Nat.pow 10 k)).magnitude := by
    rw [hm, hp, zpow_neg, zpow_natCast, div_eq_mul_inv]
  rw [hquotient] at hmoderate ⊢
  obtain ⟨hminus, hrounds⟩ := rounds_div hmpos hppos hmoderate
  exact ⟨by rw [hminus, hmminus, hpminus]; rfl, hrounds⟩

/-- In the same way only their product is rounded. -/
theorem rounds_mul_tenPower (hs : 0 < s) (hs' : s < 10 ^ 15) {k : Nat} (hk : k ≤ 22) :
    ((Binary64.ofNat s).mul (Binary64.ofNat (Nat.pow 10 k))).isNegative = false ∧
      ∃ q e, ((Binary64.ofNat s).mul (Binary64.ofNat (Nat.pow 10 k))).Rounds (s * 10 ^ (k : ℤ)) q e := by
  obtain ⟨hm, hmpos, hmminus⟩ := magnitude_short hs hs'
  obtain ⟨hp, hppos, hpminus⟩ := magnitude_tenPower hk
  have hmoderate := @moderate_scaled s k hs hs' (by omega) (by omega)
  have hproduct : (s * 10 ^ (k : ℤ) : ℚ) =
      (Binary64.ofNat s).magnitude * (Binary64.ofNat (Nat.pow 10 k)).magnitude := by
    rw [hm, hp, zpow_natCast]
  rw [hproduct] at hmoderate ⊢
  obtain ⟨hminus, hrounds⟩ := rounds_mul hmpos hppos hmoderate
  exact ⟨by rw [hminus, hmminus, hpminus]; rfl, hrounds⟩

/-- The double with a given sign. -/
theorem signed_rounds {x : Binary64} {r : ℚ} {q : Nat} (minus : Bool) (hx : x.isNegative = false)
    (h : x.Rounds r q e) :
    (if minus then x.neg else x).isNegative = minus ∧ (if minus then x.neg else x).Rounds r q e := by
  cases minus
  · exact ⟨hx, h⟩
  · exact ⟨(isNegative_neg x).trans (by rw [hx]; rfl), h.neg⟩

/-- **A short significand with a small power of ten is rounded once.** -/
theorem scaled?_short (minus : Bool) (hs : 0 < s) (hs' : s < 10 ^ 15) (hlow : -22 ≤ e) (hhigh : e ≤ 22) :
    ∃ x, scaled? minus s e = some x ∧ x.isNegative = minus ∧ ∃ q e', x.Rounds (s * 10 ^ e) q e' := by
  obtain ⟨y, hy, hminus, q, e', hrounds⟩ : ∃ y, scaled? minus s e = some (if minus then y.neg else y) ∧
      y.isNegative = false ∧ ∃ q e', y.Rounds (s * 10 ^ e) q e' := by
    unfold scaled?
    simp only
    by_cases he : e < 0
    · obtain ⟨k, rfl⟩ := Int.exists_eq_neg_ofNat he.le
      have hdown : scaleDown 4 (Binary64.ofNat s) (-(k : ℤ)) =
          (Binary64.ofNat s).div (Binary64.ofNat (Nat.pow 10 k)) := by
        rw [scaleDown, if_pos (by simp only [largestTenPower]; omega), neg_neg, Int.toNat_natCast]
      rw [if_pos he, hdown]
      exact ⟨_, rfl, rounds_div_tenPower hs hs' (by omega)⟩
    · obtain ⟨k, rfl⟩ := Int.eq_ofNat_of_zero_le (not_lt.mp he)
      obtain ⟨hminus, q, e', hrounds⟩ := @rounds_mul_tenPower s hs hs' k (by omega)
      rw [if_neg he, if_pos (by simp only [largestTenPower]; omega), Int.toNat_natCast, if_pos hrounds.isFinite]
      exact ⟨_, rfl, hminus, q, e', hrounds⟩
  obtain ⟨hsign, hrounds⟩ := signed_rounds minus hminus hrounds
  exact ⟨_, hy, hsign, q, e', hrounds⟩

/-! ### Zeros -/

theorem significand_scaleDown (steps : Nat) {x : Binary64} (e : ℤ) (h : x.significand = 0) :
    (scaleDown steps x e).significand = 0 := by
  cases steps with
  | zero => exact h
  | succ steps =>
    rw [scaleDown, if_pos h]
    split
    · obtain ⟨minus, hzero⟩ := exists_div_zero (Binary64.ofNat (Nat.pow 10 (-e).toNat)) h
      rw [hzero, significand_zero]
    · exact h

/-- Zero is a zero at every power of ten. -/
theorem scaled?_zero (minus : Bool) (e : ℤ) : ∃ x, scaled? minus 0 e = some x ∧ x.significand = 0 := by
  have hzero : (Binary64.ofNat 0).significand = 0 := significand_zero false
  have hsign {y : Binary64} (hy : y.significand = 0) : (if minus then y.neg else y).significand = 0 := by
    split
    · rw [significand_neg, hy]
    · exact hy
  unfold scaled?
  simp only
  by_cases he : e < 0
  · rw [if_pos he]
    exact ⟨_, rfl, hsign (significand_scaleDown 4 e hzero)⟩
  rw [if_neg he]
  by_cases hlarge : e ≤ largestTenPower
  · obtain ⟨m, hproduct⟩ := exists_mul_zero (Binary64.ofNat (Nat.pow 10 e.toNat)) hzero
    rw [if_pos hlarge, hproduct, if_pos (isFinite_zero m)]
    exact ⟨_, rfl, hsign (significand_zero m)⟩
  · rw [if_neg hlarge, if_pos trivial]
    exact ⟨_, rfl, hsign hzero⟩

theorem held?_zero (minus : Bool) (e : ℤ) (exponent : Option ExponentPart) :
    ∃ x, held? minus 0 e exponent = some x ∧ x.significand = 0 := by
  cases exponent with
  | none => exact scaled?_zero minus e
  | some p =>
    rw [held?]
    split
    · rw [if_neg fun h => h.1 rfl]
      exact ⟨_, rfl, significand_zero minus⟩
    · exact scaled?_zero minus _

/-! ### Whole numbers -/

/-- A whole number of 64 bits is held as it is. -/
theorem ofWhole_exact {minus : Bool} {n : Nat} (h : minus = true → n ≤ Nat.pow 2 63) :
    (ofWhole minus n).Positional ∧ (ofWhole minus n).printed = (if minus then -1 else 1) * n := by
  unfold ofWhole
  cases minus with
  | false => exact ⟨trivial, (one_mul _).symm⟩
  | true =>
    have hle := h rfl
    simp only [Bool.not_true, Bool.false_eq_true, if_false, if_true]
    split
    · next hzero =>
      obtain rfl := hzero.resolve_right (by omega)
      have hsignificand : (Binary64.ofNat 0).neg.significand = 0 := (significand_neg _).trans (significand_zero false)
      refine ⟨Or.inl hsignificand, ?_⟩
      rw [printed, Binary64.printed, printedMagnitude, if_pos hsignificand]
      simp
    · exact ⟨trivial, by simp [printed]⟩

end JsonNumber

/-! ## Literals -/

namespace NumberLiteral

open JsonNumber

variable {l : NumberLiteral} {rest : List Char}

/-- The literal is written without a fraction and an exponent part. -/
def IsWhole (l : NumberLiteral) : Prop := l.fraction = [] ∧ l.exponent = none

/-- The literal is an integer of 64 bits, with or without a sign bit. -/
def IsInteger64 (l : NumberLiteral) : Prop :=
  l.IsWhole ∧ l.significand < Nat.pow 2 64 ∧ (l.negative = true → l.significand ≤ Nat.pow 2 63)

/-- The literal has at most fifteen digits in front of its exponent part. -/
def IsShort (l : NumberLiteral) : Prop := (l.whole ++ l.fraction).length ≤ 15

theorem abs_value (l : NumberLiteral) : |l.value| = l.significand * 10 ^ l.power := by
  have hsign : |(if l.negative then -1 else 1 : ℚ)| = 1 := by split <;> simp
  rw [value, abs_mul, hsign, one_mul, abs_of_nonneg (by positivity)]

theorem IsShort.significand_lt (h : l.IsShort) : l.significand < 10 ^ 15 := by
  have hdigits : ∀ c ∈ l.whole ++ l.fraction, c.isDigit = true := fun c hc =>
    (mem_append.mp hc).elim (l.isNumeral.2 c) (l.isDigits c)
  exact (digitsValue_lt hdigits).trans_le (Nat.pow_le_pow_right (by decide) h)

/-- The power of ten of a number that is neither small nor large. -/
theorem power_bounds (hs : 0 < l.significand) (hs' : l.significand < 10 ^ 15) (hlow : (10 : ℚ) ^ (-5 : ℤ) ≤ |l.value|)
    (hhigh : |l.value| < (10 : ℚ) ^ (16 : ℤ)) : -22 ≤ l.power ∧ l.power ≤ 22 := by
  have hone : (1 : ℚ) ≤ l.significand := by exact_mod_cast hs
  have hlt : (l.significand : ℚ) < 10 ^ (15 : ℤ) := by exact_mod_cast hs'
  have hten : (0 : ℚ) < 10 ^ l.power := by positivity
  rw [abs_value] at hlow hhigh
  have hmax : (10 : ℚ) ^ l.power < 10 ^ (16 : ℤ) := (le_mul_of_one_le_left hten.le hone).trans_lt hhigh
  have hmin : (10 : ℚ) ^ (-5 : ℤ) < 10 ^ (15 + l.power) := by
    rw [zpow_add₀ (by norm_num)]
    exact hlow.trans_lt (mul_lt_mul_of_pos_right hlt hten)
  have hmax' := (zpow_lt_zpow_iff_right₀ (by norm_num)).mp hmax
  have hmin' := (zpow_lt_zpow_iff_right₀ (by norm_num)).mp hmin
  omega

/-- The power of ten of a short literal is not out of range because of its exponent part. -/
theorem IsShort.held? (h : l.IsShort) (hlow : -22 ≤ l.power) (hhigh : l.power ≤ 22) :
    held? l.negative l.significand (-(l.fraction.length : ℤ)) l.exponent =
      scaled? l.negative l.significand l.power := by
  have hpower : l.power = ExponentPart.valueOf l.exponent - l.fraction.length := rfl
  have hfraction : l.fraction.length ≤ 15 := by
    rw [IsShort, length_append] at h
    omega
  cases hexponent : l.exponent with
  | none =>
    rw [hexponent, ExponentPart.valueOf, Int.zero_sub] at hpower
    rw [JsonNumber.held?, ← hpower]
  | some p =>
    rw [hexponent, ExponentPart.valueOf] at hpower
    have hsum : -(l.fraction.length : ℤ) + p.value = l.power := by omega
    have hvalue : (digitsValue p.digits : ℤ) ≤ 37 := by
      unfold ExponentPart.value at hpower
      split at hpower <;> omega
    have hthirtyOne : Nat.pow 2 31 = 2 ^ 31 := rfl
    rw [JsonNumber.held?, if_neg (by omega), hsum]

/-- **A short literal with a small power of ten is rounded once**, unless it is whole. -/
theorem IsShort.take? (h : l.IsShort) (hwhole : ¬ l.IsWhole) (hs : 0 < l.significand) (hlow : -22 ≤ l.power)
    (hhigh : l.power ≤ 22) (hrest : EndsNumber rest) : ∃ x, JsonNumber.take? (l.chars ++ rest) = some (.float x, rest) ∧
      x.isNegative = l.negative ∧ ∃ q e, x.Rounds (l.significand * 10 ^ l.power) q e := by
  have hs' := h.significand_lt
  have htake := take?_chars l hrest
  rw [if_neg fun hall => hwhole ⟨hall.1, hall.2.1⟩] at htake
  obtain ⟨s, e, htake, hexact⟩ := htake
  obtain ⟨rfl, rfl⟩ := hexact (hs'.trans (by decide))
  obtain ⟨x, hx, hminus, hrounds⟩ := scaled?_short l.negative hs hs' hlow hhigh
  exact ⟨x, by rw [htake, h.held? hlow hhigh, hx]; rfl, hminus, hrounds⟩

/-- The number of a literal has the sign of its double. -/
theorem printed_eq_value {x : Binary64} (hminus : x.isNegative = l.negative)
    (hx : x.printedMagnitude = l.significand * 10 ^ l.power) : x.printed = l.value := by
  rw [Binary64.printed, hx, value, Binary64.sign, hminus]
  cases l.negative <;> simp [signFactor]

/-- An integer of 64 bits is exact. -/
theorem IsInteger64.exists_exact (h : l.IsInteger64) (hrest : EndsNumber rest) :
    ∃ n, JsonNumber.take? (l.chars ++ rest) = some (n, rest) ∧ n.Positional ∧ n.printed = l.value := by
  obtain ⟨hwhole, hlt, hminus⟩ := h
  have htake := take?_chars l hrest
  rw [if_pos ⟨hwhole.1, hwhole.2, hlt⟩] at htake
  obtain ⟨hpositional, hprinted⟩ := ofWhole_exact hminus
  refine ⟨_, htake, hpositional, hprinted.trans ?_⟩
  rw [value, power, hwhole.1, hwhole.2, ExponentPart.valueOf]
  simp

/-- A zero is exact, also with a fraction or an exponent part. -/
theorem exists_exact_of_zero (hzero : l.significand = 0) (hwhole : ¬ l.IsWhole) (hrest : EndsNumber rest) :
    ∃ n, JsonNumber.take? (l.chars ++ rest) = some (n, rest) ∧ n.Positional ∧ n.printed = l.value := by
  have htake := take?_chars l hrest
  rw [if_neg fun hall => hwhole ⟨hall.1, hall.2.1⟩] at htake
  obtain ⟨s, e, htake, hexact⟩ := htake
  obtain ⟨rfl, _⟩ := hexact (by rw [hzero]; decide)
  obtain ⟨x, hx, hsignificand⟩ := held?_zero l.negative e l.exponent
  rw [hzero, hx] at htake
  refine ⟨_, htake, Or.inl hsignificand, ?_⟩
  rw [JsonNumber.printed, Binary64.printed, Binary64.printedMagnitude, if_pos hsignificand, value, hzero]
  simp

/-- **A literal that is neither too long nor too large or small is exact.** -/
theorem exists_exact (hrest : EndsNumber rest) (h : l.IsInteger64 ∨ l.significand = 0 ∨
    l.IsShort ∧ (10 : ℚ) ^ (-5 : ℤ) ≤ |l.value| ∧ |l.value| < (10 : ℚ) ^ (16 : ℤ)) :
    ∃ n, JsonNumber.take? (l.chars ++ rest) = some (n, rest) ∧ n.Positional ∧ n.printed = l.value := by
  rcases h with hinteger | hzero | ⟨hshort, hlow, hhigh⟩
  · exact hinteger.exists_exact hrest
  · by_cases hwhole : l.IsWhole
    · have hinteger : l.IsInteger64 := ⟨hwhole, by rw [hzero]; decide, fun _ => by rw [hzero]; decide⟩
      exact hinteger.exists_exact hrest
    · exact exists_exact_of_zero hzero hwhole hrest
  · have hpos : 0 < l.significand := by
      refine Nat.pos_of_ne_zero fun hzero => absurd hlow (not_le.mpr ?_)
      rw [abs_value, hzero, Nat.cast_zero, zero_mul]
      positivity
    have hs' := hshort.significand_lt
    obtain ⟨hmin, hmax⟩ := power_bounds hpos hs' hlow hhigh
    by_cases hwhole : l.IsWhole
    · have hinteger : l.IsInteger64 := ⟨hwhole, hs'.trans (by decide), fun _ => hs'.le.trans (by decide)⟩
      exact hinteger.exists_exact hrest
    · obtain ⟨x, hx, hminus, q, e, hrounds⟩ := hshort.take? hwhole hpos hmin hmax hrest
      obtain ⟨hprinted, hpositional⟩ := hrounds.printed rfl hpos hs' hmin hmax
      rw [← abs_value] at hpositional
      exact ⟨_, hx, hpositional.mpr ⟨hlow, hhigh⟩, printed_eq_value hminus hprinted⟩

/-- **A short literal that is too large or too small is not printed as a decimal**, unless it is whole. -/
theorem exists_refused (hrest : EndsNumber rest) (hshort : l.IsShort) (hwhole : ¬ l.IsWhole) (hpos : 0 < l.significand)
    (hlow : -22 ≤ l.power) (hhigh : l.power ≤ 22)
    (hout : ¬ ((10 : ℚ) ^ (-5 : ℤ) ≤ |l.value| ∧ |l.value| < (10 : ℚ) ^ (16 : ℤ))) :
    ∃ n, JsonNumber.take? (l.chars ++ rest) = some (n, rest) ∧ ¬ n.Positional := by
  obtain ⟨x, hx, _, q, e, hrounds⟩ := hshort.take? hwhole hpos hlow hhigh hrest
  obtain ⟨_, hpositional⟩ := hrounds.printed rfl hpos hshort.significand_lt hlow hhigh
  rw [← abs_value] at hpositional
  exact ⟨_, hx, fun h => hout (hpositional.mp h)⟩

-- Both sides of the upper bound.
example : (JsonNumber.take? "1e15".toList).map (fun r => r.1.chars) = some "1000000000000000.0".toList := by
  decide +kernel

example : (JsonNumber.take? "1e16".toList).map (fun r => r.1.chars) = some "1e+16".toList := by
  decide +kernel

/-- A literal is read as a number, wherever a value is expected. -/
theorem takeValue?_chars (l : NumberLiteral) (add : Json.AddMember) (fuel depth : Nat) (rest : List Char) :
    Json.takeValue? add (fuel + 1) depth (l.chars ++ rest) =
      (JsonNumber.take? (l.chars ++ rest)).map fun r => (.number r.1, r.2) := by
  obtain ⟨c, cs, hchars, hc⟩ : ∃ c cs, l.chars ++ rest = c :: cs ∧ (c = '-' ∨ c.isDigit = true) := by
    obtain ⟨d, ds, hwhole⟩ := exists_cons_of_ne_nil l.isNumeral.1
    have hd := l.isNumeral.2 d (by rw [hwhole]; exact mem_cons_self)
    unfold chars
    rw [hwhole]
    cases l.negative with
    | true => exact ⟨_, _, rfl, Or.inl rfl⟩
    | false => exact ⟨_, _, rfl, Or.inr hd⟩
  have hne (d : Char) (hd : d ≠ '-') (hd' : d.isDigit = false) : c ≠ d := by
    rintro rfl
    rcases hc with rfl | hc
    · exact hd rfl
    · rw [hd'] at hc
      cases hc
  rw [hchars, Json.takeValue?, if_neg (hne _ (by decide) (by decide)), if_neg (hne _ (by decide) (by decide)),
    if_neg (hne _ (by decide) (by decide)), if_neg (hne _ (by decide) (by decide)),
    if_neg (hne _ (by decide) (by decide)), if_neg (hne _ (by decide) (by decide))]

/-- Nothing behind a literal is taken with it. -/
theorem rest_of_take? (hrest : EndsNumber rest) {n : JsonNumber} {rest' : List Char}
    (h : JsonNumber.take? (l.chars ++ rest) = some (n, rest')) : rest' = rest := by
  have htake := take?_chars l hrest
  split at htake
  · rw [h] at htake
    cases htake
    rfl
  · obtain ⟨s, e, htake, _⟩ := htake
    rw [h] at htake
    obtain ⟨x, _, heq⟩ := Option.map_eq_some_iff.mp htake.symm
    cases heq
    rfl

end NumberLiteral

/-- **Numbers in decimal columns.** A literal that is read as a value becomes a decimal. Both formats take it exactly if
it is printed without an exponent, and then it denotes the number that is printed, which is that of the shortest
decimal of a double where the literal is not held as an integer.

So the literal is exact if it is an integer of 64 bits, if it is zero, and if it has at most fifteen digits and lies
between a hundred-thousandth and `10 ^ 16`. No other literal of at most fifteen digits and a small power of ten is taken
by any format. -/
theorem decimal_of_literal (l : NumberLiteral) {rest : List Char} (hrest : EndsNumber rest) (add : Json.AddMember)
    (fuel depth : Nat) :
    let read := Json.takeValue? add (fuel + 1) depth (l.chars ++ rest)
    let moderate := (10 : ℚ) ^ (-5 : ℤ) ≤ |l.value| ∧ |l.value| < (10 : ℚ) ^ (16 : ℤ)
    (∀ v rest', read = some (v, rest') → rest' = rest ∧ ∃ n d, v = .number n ∧
      valueOfJson .decimal v = .ok (.decimal d) ∧
      (∀ f, (∃ field, encodeField f (.decimal d) = .ok field) ↔ n.Positional) ∧
      (IsExact d l.value ↔ n.Positional ∧ n.printed = l.value)) ∧
    (l.IsInteger64 ∨ l.significand = 0 ∨ l.IsShort ∧ moderate → ∃ v d, read = some (v, rest) ∧
      valueOfJson .decimal v = .ok (.decimal d) ∧ IsExact d l.value) ∧
    (l.IsShort → ¬ l.IsWhole → 0 < l.significand → -22 ≤ l.power → l.power ≤ 22 → ¬ moderate →
      ∃ v d, read = some (v, rest) ∧ valueOfJson .decimal v = .ok (.decimal d) ∧
        ∀ f, ¬ ∃ field, encodeField f (.decimal d) = .ok field) := by
  intro read moderate
  have hread : read = (JsonNumber.take? (l.chars ++ rest)).map fun r => (.number r.1, r.2) :=
    l.takeValue?_chars add fuel depth rest
  have hvalue (n : JsonNumber) : valueOfJson .decimal (.number n) = .ok (.decimal (String.ofList n.chars)) := rfl
  refine ⟨?_, ?_, ?_⟩
  · intro v rest' h
    rw [hread] at h
    obtain ⟨⟨n, rest''⟩, htake, heq⟩ := Option.map_eq_some_iff.mp h
    cases heq
    exact ⟨NumberLiteral.rest_of_take? hrest htake, n, _, rfl, hvalue n, fun f => takes_iff, isExact_iff⟩
  · intro h
    obtain ⟨n, htake, hexact⟩ := NumberLiteral.exists_exact hrest h
    exact ⟨.number n, _, by rw [hread, htake]; rfl, hvalue n, isExact_iff.mpr hexact⟩
  · intro hshort hwhole hpos hlow hhigh hout
    obtain ⟨n, htake, hrefused⟩ := NumberLiteral.exists_refused hrest hshort hwhole hpos hlow hhigh hout
    exact ⟨.number n, _, by rw [hread, htake]; rfl, hvalue n, fun f h => hrefused (takes_iff.mp h)⟩

/-- The number two and a half, written with a zero behind. -/
def twoAndHalf : NumberLiteral where
  negative := false
  whole := ['2']
  fraction := ['5', '0']
  exponent := none
  isNumeral := ⟨by simp, isDigits_iff.mp rfl⟩
  isLeading := Or.inr (by simp)
  isDigits := isDigits_iff.mp rfl

/-- The last value of an object is taken up to the brace, and it is exact. -/
theorem decimal_of_literal_twoAndHalf :
    let rest := ['\x7d']
    EndsNumber rest ∧ ∃ v d, Json.takeValue? setMember 1 1 ("2.50".toList ++ rest) = some (v, rest) ∧
      valueOfJson .decimal v = .ok (.decimal d) ∧ IsExact d (5 / 2) := by
  intro rest
  have hrest : EndsNumber rest := ⟨by simp [rest, Calendar.Stops], by simp [rest], by simp [rest], by simp [rest]⟩
  have hchars : twoAndHalf.chars = "2.50".toList := by decide
  have hsignificand : twoAndHalf.significand = 250 := by decide
  have hvalue : twoAndHalf.value = 5 / 2 := by
    rw [NumberLiteral.value, hsignificand]
    norm_num [twoAndHalf, NumberLiteral.power, ExponentPart.valueOf]
  have hexact := (decimal_of_literal twoAndHalf hrest setMember 0 1).2.1
    (Or.inr (Or.inr ⟨(by decide : 3 ≤ 15), by rw [hvalue]; norm_num⟩))
  rw [hchars, hvalue] at hexact
  exact ⟨hrest, hexact⟩

/-- A whole number with more digits than 64 bits hold. -/
def longWhole : NumberLiteral where
  negative := false
  whole := "12345678901234567890123".toList
  fraction := []
  exponent := none
  isNumeral := ⟨by decide, isDigits_iff.mp (by decide)⟩
  isLeading := Or.inr (by decide)
  isDigits := nofun

/-- A fraction with more digits than a double holds. -/
def longFraction : NumberLiteral where
  negative := false
  whole := ['0']
  fraction := "12345678901234567891".toList
  exponent := none
  isNumeral := ⟨by simp, isDigits_iff.mp rfl⟩
  isLeading := Or.inl rfl
  isDigits := isDigits_iff.mp (by decide)

/-- **Numbers in decimal columns need not be exact.** A whole number of 23 digits is printed with an exponent, and no
format takes it. A fraction of twenty digits is taken, but it is no longer the number that was written. -/
theorem not_decimal_of_literal :
    (¬ ∀ (l : NumberLiteral) (v : Json) (d : String), Json.takeValue? setMember 1 1 l.chars = some (v, []) →
      valueOfJson .decimal v = .ok (.decimal d) → ∀ f, ∃ field, encodeField f (.decimal d) = .ok field) ∧
    ¬ ∀ (l : NumberLiteral) (v : Json) (d : String), Json.takeValue? setMember 1 1 l.chars = some (v, []) →
      valueOfJson .decimal v = .ok (.decimal d) → (∀ f, ∃ field, encodeField f (.decimal d) = .ok field) →
        decimalValue d.toList = l.value := by
  have hread (l : NumberLiteral) {d : String}
      (h : (JsonNumber.take? l.chars).map (fun r => (String.ofList r.1.chars, r.2)) = some (d, [])) :
      ∃ v, Json.takeValue? setMember 1 1 l.chars = some (v, []) ∧ valueOfJson .decimal v = .ok (.decimal d) := by
    obtain ⟨⟨n, rest⟩, htake, heq⟩ := Option.map_eq_some_iff.mp h
    cases heq
    have hvalue := l.takeValue?_chars setMember 0 1 []
    rw [List.append_nil, htake] at hvalue
    exact ⟨_, hvalue, rfl⟩
  constructor
  · intro h
    obtain ⟨v, hv, hd⟩ := hread longWhole (d := "1.2345678901234568e+22") (by decide +kernel)
    obtain ⟨field, hfield⟩ := h longWhole v _ hv hd .copy
    have hdecimal := encodeField_decimal_iff.mp ⟨field, hfield⟩
    rw [← isDecimal_iff] at hdecimal
    exact absurd hdecimal (by decide +kernel)
  · intro h
    obtain ⟨v, hv, hd⟩ := hread longFraction (d := "0.12345678901234568") (by decide +kernel)
    have hwritten : isDecimal "0.12345678901234568".toList = true := by decide +kernel
    have hvalue := h longFraction v _ hv hd fun f => encodeField_decimal_iff.mpr (isDecimal_iff.mp hwritten)
    exact absurd hvalue (by decide +kernel)

end BulkLoad
