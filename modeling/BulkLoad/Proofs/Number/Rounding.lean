import BulkLoad.Number.Binary64
import Mathlib.Algebra.Order.Field.Power
import Mathlib.Tactic.Linarith
import Mathlib.Tactic.Ring

/-!
# Rounding to doubles

The double of a quotient has the significand nearest to it in units of its last place (`Binary64.Rounds`,
`Binary64.rounds_ofRatio`). Products and quotients of doubles are rounded once (`Binary64.rounds_mul`,
`Binary64.rounds_div`), and natural numbers of 53 bits are not rounded at all (`Binary64.magnitude_ofNat`). All this is
said of moderate numbers, far from the smallest and the largest doubles.
-/

namespace BulkLoad

variable {num den : Nat}

/-! ## The nearest natural number -/

/-- The natural number nearest to a rational one, and of two that are equally near the even one. -/
structure Nearest (q : Nat) (r : ℚ) : Prop where
  low : (q : ℚ) - 1 / 2 ≤ r
  high : r ≤ (q : ℚ) + 1 / 2
  odd : q % 2 = 1 → (q : ℚ) - 1 / 2 < r ∧ r < (q : ℚ) + 1 / 2

namespace Nearest

variable {q n : Nat} {r : ℚ}

/-- Rounding does not go below a natural number. -/
theorem le (h : Nearest q r) (hn : n ≤ r) : n ≤ q := by
  have hlt : (n : ℚ) < q + 1 := by linarith [h.high]
  exact Nat.lt_succ_iff.mp (by exact_mod_cast hlt)

/-- Rounding does not go above a natural number. -/
theorem ge (h : Nearest q r) (hn : r ≤ n) : q ≤ n := by
  have hlt : (q : ℚ) < n + 1 := by linarith [h.low]
  exact Nat.lt_succ_iff.mp (by exact_mod_cast hlt)

/-- A natural number is the nearest to itself. -/
theorem eq (h : Nearest q n) : q = n :=
  (h.ge le_rfl).antisymm (h.le le_rfl)

end Nearest

/-- Of two equally near numbers the even one is taken. -/
theorem even_of_roundHalfEven (h : 2 * num = 2 * (den * roundHalfEven num den) + den ∨
    2 * num + den = 2 * (den * roundHalfEven num den)) (hden : 0 < den) : roundHalfEven num den % 2 = 0 := by
  have hdiv := Nat.div_add_mod num den
  have hmod := Nat.mod_lt num hden
  unfold roundHalfEven at h ⊢
  simp only at h ⊢
  split at h
  · omega
  next hbelow =>
  split at h
  · rw [Nat.mul_add, Nat.mul_one] at h
    omega
  · next habove =>
    rw [if_neg hbelow, if_neg habove]
    omega

theorem nearest_roundHalfEven (h : 0 < den) : Nearest (roundHalfEven num den) (num / den) := by
  have hpos : (0 : ℚ) < den := by exact_mod_cast h
  have hle : (2 * (den * roundHalfEven num den) : ℚ) ≤ 2 * num + den := by exact_mod_cast roundHalfEven_le h
  have hge : (2 * num : ℚ) ≤ 2 * (den * roundHalfEven num den) + den := by exact_mod_cast le_roundHalfEven h
  have hlow : (roundHalfEven num den : ℚ) - 1 / 2 ≤ num / den := by
    rw [le_div_iff₀ hpos]
    linarith
  have hhigh : (num / den : ℚ) ≤ roundHalfEven num den + 1 / 2 := by
    rw [div_le_iff₀ hpos]
    linarith
  refine ⟨hlow, hhigh, fun hodd => ?_⟩
  -- A quotient in the middle is rounded to an even number.
  constructor
  · refine lt_of_le_of_ne hlow fun heq => ?_
    rw [eq_div_iff hpos.ne'] at heq
    have htie : (2 * num + den : ℚ) = 2 * (den * roundHalfEven num den) := by linarith
    have heven := even_of_roundHalfEven (Or.inr (by exact_mod_cast htie)) h
    omega
  · refine lt_of_le_of_ne hhigh fun heq => ?_
    rw [div_eq_iff hpos.ne'] at heq
    have htie : (2 * num : ℚ) = 2 * (den * roundHalfEven num den) + den := by linarith
    have heven := even_of_roundHalfEven (Or.inl (by exact_mod_cast htie)) h
    omega

/-! ## Powers -/

/-- A power with an integer exponent, by natural exponents on both sides of a fraction. -/
theorem zpow_eq_div {b : ℚ} (hb : b ≠ 0) (e : ℤ) : b ^ e = b ^ e.toNat / b ^ (-e).toNat := by
  rw [eq_div_iff (pow_ne_zero _ hb), ← zpow_natCast, ← zpow_natCast, ← zpow_add₀ hb]
  congr 1
  omega

namespace Binary64

/-- The logarithms of its parts give the power of two at a quotient, but for one. -/
theorem log2_quotient (hnum : 0 < num) (hden : 0 < den) :
    (2 : ℚ) ^ ((num.log2 : ℤ) - den.log2 - 1) ≤ num / den ∧ (num / den : ℚ) < 2 ^ ((num.log2 : ℤ) - den.log2 + 1) := by
  have hpos : (0 : ℚ) < den := by exact_mod_cast hden
  have hnumlow : ((2 ^ num.log2 : ℕ) : ℚ) ≤ num := by exact_mod_cast Nat.log2_self_le hnum.ne'
  have hnumhigh : (num : ℚ) < (2 ^ (num.log2 + 1) : ℕ) := by exact_mod_cast Nat.lt_log2_self
  have hdenlow : ((2 ^ den.log2 : ℕ) : ℚ) ≤ den := by exact_mod_cast Nat.log2_self_le hden.ne'
  have hdenhigh : (den : ℚ) < (2 ^ (den.log2 + 1) : ℕ) := by exact_mod_cast Nat.lt_log2_self
  push_cast at hnumlow hnumhigh hdenlow hdenhigh
  have hpowers {a b : ℤ} {n : ℕ} (h : a = n - b) : (2 : ℚ) ^ a * 2 ^ b = 2 ^ n := by
    rw [← zpow_natCast, ← zpow_add₀ (by norm_num), h, sub_add_cancel]
  constructor
  · rw [le_div_iff₀ hpos]
    calc (2 : ℚ) ^ ((num.log2 : ℤ) - den.log2 - 1) * den
        ≤ 2 ^ ((num.log2 : ℤ) - den.log2 - 1) * 2 ^ ((den.log2 : ℤ) + 1) := by
          gcongr
          exact_mod_cast hdenhigh.le
      _ = 2 ^ num.log2 := hpowers (by ring)
      _ ≤ num := hnumlow
  · rw [div_lt_iff₀ hpos]
    calc (num : ℚ) < 2 ^ (num.log2 + 1) := hnumhigh
      _ = 2 ^ ((num.log2 : ℤ) - den.log2 + 1) * 2 ^ (den.log2 : ℤ) := (hpowers (by push_cast; ring)).symm
      _ ≤ 2 ^ ((num.log2 : ℤ) - den.log2 + 1) * den := by
          gcongr
          exact_mod_cast hdenlow

/-- A quotient is compared with a power of two by a product of natural numbers. -/
theorem quotient_lt_zpow (hden : 0 < den) (l : ℤ) : (num / den : ℚ) < 2 ^ l ↔
    (if 0 ≤ l then decide (num < den * Nat.pow 2 l.toNat) else decide (num * Nat.pow 2 (-l).toNat < den)) = true := by
  have hpos : (0 : ℚ) < den := by exact_mod_cast hden
  rw [div_lt_iff₀ hpos]
  split
  · next hl =>
    obtain ⟨n, rfl⟩ := Int.eq_ofNat_of_zero_le hl
    rw [decide_eq_true_iff, Int.toNat_natCast, zpow_natCast, mul_comm]
    exact_mod_cast Iff.rfl
  · next hl =>
    obtain ⟨n, rfl⟩ := Int.exists_eq_neg_ofNat (Int.le_of_lt (Int.not_le.mp hl))
    rw [decide_eq_true_iff, neg_neg, Int.toNat_natCast, zpow_neg, zpow_natCast, inv_mul_eq_div,
      lt_div_iff₀ (by positivity)]
    exact_mod_cast Iff.rfl

/-- The power of two at a quotient. -/
theorem floorLog2_spec (hnum : 0 < num) (hden : 0 < den) :
    (2 : ℚ) ^ floorLog2 num den ≤ num / den ∧ (num / den : ℚ) < 2 ^ (floorLog2 num den + 1) := by
  obtain ⟨hlow, hhigh⟩ := log2_quotient hnum hden
  unfold floorLog2
  simp only
  by_cases h : (num / den : ℚ) < 2 ^ ((num.log2 : ℤ) - den.log2)
  · rw [if_pos ((quotient_lt_zpow hden _).mp h), sub_add_cancel]
    exact ⟨hlow, h⟩
  · rw [if_neg (mt (quotient_lt_zpow hden _).mpr h)]
    exact ⟨not_lt.mp h, hhigh⟩

/-! ## The parts of a double -/

/-- The magnitude of a finite double. -/
def magnitude (x : Binary64) : ℚ := x.significand * 2 ^ x.power

section

variable {m : Nat}

theorem toNat_ofMagnitude (minus : Bool) (hm : m < 2 ^ 63) :
    (ofMagnitude minus m).bits.toNat = (if minus then 2 ^ 63 else 0) + m := by
  have hpow : Nat.pow 2 63 = 2 ^ 63 := rfl
  rw [ofMagnitude, hpow]
  cases minus
  · simp only [Bool.false_eq_true, if_false, Nat.toUInt64, UInt64.toNat_ofNat']
    omega
  · simp only [if_true, Nat.toUInt64, UInt64.toNat_ofNat']
    omega

theorem exponentField_ofMagnitude (minus : Bool) (hm : m < 2 ^ 63) :
    (ofMagnitude minus m).exponentField = m / 2 ^ 52 := by
  have h52 : Nat.pow 2 52 = 2 ^ 52 := rfl
  have h11 : Nat.pow 2 11 = 2 ^ 11 := rfl
  rw [exponentField, toNat_ofMagnitude minus hm, h52, h11]
  split <;> omega

theorem fractionField_ofMagnitude (minus : Bool) (hm : m < 2 ^ 63) :
    (ofMagnitude minus m).fractionField = m % 2 ^ 52 := by
  have h52 : Nat.pow 2 52 = 2 ^ 52 := rfl
  rw [fractionField, toNat_ofMagnitude minus hm, h52]
  split <;> omega

theorem isNegative_ofMagnitude (minus : Bool) (hm : m < 2 ^ 63) : (ofMagnitude minus m).isNegative = minus := by
  have h63 : Nat.pow 2 63 = 2 ^ 63 := rfl
  rw [isNegative, toNat_ofMagnitude minus hm, h63]
  cases minus
  · rw [if_neg Bool.false_ne_true, decide_eq_false_iff_not]
    omega
  · rw [if_pos rfl, decide_eq_true_iff]
    omega

variable (x : Binary64)

theorem exponentField_neg : x.neg.exponentField = x.exponentField := by
  have h63 : Nat.pow 2 63 = 2 ^ 63 := rfl
  have h52 : Nat.pow 2 52 = 2 ^ 52 := rfl
  have h11 : Nat.pow 2 11 = 2 ^ 11 := rfl
  rw [neg, h63, exponentField_ofMagnitude _ (Nat.mod_lt _ (by decide)), exponentField, h52, h11]
  omega

theorem fractionField_neg : x.neg.fractionField = x.fractionField := by
  have h63 : Nat.pow 2 63 = 2 ^ 63 := rfl
  have h52 : Nat.pow 2 52 = 2 ^ 52 := rfl
  rw [neg, h63, fractionField_ofMagnitude _ (Nat.mod_lt _ (by decide)), fractionField, h52]
  omega

theorem significand_neg : x.neg.significand = x.significand := by
  rw [significand, significand, exponentField_neg, fractionField_neg]

theorem power_neg : x.neg.power = x.power := by
  rw [power, power, exponentField_neg]

theorem isNegative_neg : x.neg.isNegative = !x.isNegative := by
  have h63 : Nat.pow 2 63 = 2 ^ 63 := rfl
  rw [neg, h63]
  exact isNegative_ofMagnitude _ (Nat.mod_lt _ (by decide))

end

/-! ## Rounding -/

/-- The significand for a power of two is the natural number nearest to the quotient in units of this power. -/
theorem nearest_scaled (hden : 0 < den) (e : ℤ) : Nearest
    (if 0 ≤ e then roundHalfEven num (den * Nat.pow 2 e.toNat) else roundHalfEven (num * Nat.pow 2 (-e).toNat) den)
    (num / den / 2 ^ e) := by
  split
  · next he =>
    obtain ⟨n, rfl⟩ := Int.eq_ofNat_of_zero_le he
    have hnearest := @nearest_roundHalfEven num (den * 2 ^ n) (by positivity)
    rw [Int.toNat_natCast, zpow_natCast, div_div]
    exact_mod_cast hnearest
  · next he =>
    obtain ⟨n, rfl⟩ := Int.exists_eq_neg_ofNat (Int.le_of_lt (Int.not_le.mp he))
    have hnearest := @nearest_roundHalfEven (num * 2 ^ n) den hden
    have hquotient : (num / den / 2 ^ (-(n : ℤ)) : ℚ) = (num * 2 ^ n : ℕ) / den := by
      push_cast
      rw [zpow_neg, zpow_natCast, div_inv_eq_mul, div_mul_eq_mul_div]
    rw [neg_neg, Int.toNat_natCast, hquotient]
    exact hnearest

/-- A quotient that is neither very small nor very large. -/
def Moderate (r : ℚ) : Prop := 2 ^ (-1000 : ℤ) ≤ r ∧ r < 2 ^ (1000 : ℤ)

/-- The double has the significand `q` in units of `2 ^ e`, unless `q` is too large by one. Then it has the smallest
significand in units of the next power. -/
structure Fits (x : Binary64) (q : Nat) (e : ℤ) : Prop where
  exponentField_gt : 1 < x.exponentField
  exponentField_lt : x.exponentField < 2047
  fits : x.significand = q ∧ x.power = e ∧ q < 2 ^ 53 ∨ x.significand = 2 ^ 52 ∧ x.power = e + 1 ∧ q = 2 ^ 53
  fraction : x.fractionField = 0 ↔ x.significand = 2 ^ 52

/-- A double for a number: `q` is the natural number nearest to it in units of `2 ^ e`, and has 53 bits. -/
structure Rounds (x : Binary64) (r : ℚ) (q : Nat) (e : ℤ) : Prop extends x.Fits q e where
  nearest : Nearest q (r / 2 ^ e)
  low : (2 ^ 52 : ℚ) ≤ r / 2 ^ e
  high : r / 2 ^ e < (2 ^ 53 : ℚ)

/-- A carry out of the significand goes into the exponent field. -/
theorem fits_ofMagnitude (minus : Bool) {n q : Nat} (hn : 1 ≤ n) (hn' : n ≤ 2022) (hq : 2 ^ 52 ≤ q) (hq' : q ≤ 2 ^ 53) :
    (ofMagnitude minus (n * 2 ^ 52 + q)).Fits q (n - 1074) := by
  have hsmall : n * 2 ^ 52 + q < 2 ^ 63 := by omega
  have h52 : Nat.pow 2 52 = 2 ^ 52 := rfl
  have hexponent := exponentField_ofMagnitude minus hsmall
  have hfraction := fractionField_ofMagnitude minus hsmall
  have hsignificand : (ofMagnitude minus (n * 2 ^ 52 + q)).significand = 2 ^ 52 + (n * 2 ^ 52 + q) % 2 ^ 52 := by
    rw [significand, hexponent, hfraction, if_neg (by omega), h52]
  have hpower : (ofMagnitude minus (n * 2 ^ 52 + q)).power = ((n * 2 ^ 52 + q) / 2 ^ 52 : ℕ) - 1075 := by
    rw [power, hexponent, if_neg (by omega)]
  refine ⟨?_, ?_, ?_, ?_⟩
  · rw [hexponent]
    omega
  · rw [hexponent]
    omega
  · rw [hsignificand, hpower]
    omega
  · rw [hsignificand, hfraction]
    omega

/-- In units of the last of its first 53 bits, a number has 53 bits. -/
theorem last_place {r : ℚ} {e : ℤ} (hlow : 2 ^ (e + 52) ≤ r) (hhigh : r < 2 ^ (e + 53)) :
    (2 ^ 52 : ℚ) ≤ r / 2 ^ e ∧ r / 2 ^ e < (2 ^ 53 : ℚ) := by
  have hpos : (0 : ℚ) < 2 ^ e := by positivity
  rw [zpow_add₀ (by norm_num), mul_comm] at hlow hhigh
  exact ⟨(le_div_iff₀ hpos).mpr hlow, (div_lt_iff₀ hpos).mpr hhigh⟩

/-- The bits of a quotient that is neither very small nor very large. -/
theorem exists_magnitudeOfRatio (hnum : 0 < num) (hden : 0 < den) (h : Moderate (num / den)) :
    ∃ n q : Nat, 1 ≤ n ∧ n ≤ 2022 ∧ magnitudeOfRatio num den = min (n * 2 ^ 52 + q) infinityBits ∧
      Nearest q (num / den / 2 ^ ((n : ℤ) - 1074)) ∧
      (2 ^ 52 : ℚ) ≤ num / den / 2 ^ ((n : ℤ) - 1074) ∧ num / den / 2 ^ ((n : ℤ) - 1074) < (2 ^ 53 : ℚ) := by
  obtain ⟨hlow, hhigh⟩ := floorLog2_spec hnum hden
  have hfloor : -1000 < floorLog2 num den + 1 := (zpow_lt_zpow_iff_right₀ (by norm_num)).mp (h.1.trans_lt hhigh)
  have hceil : floorLog2 num den < 1000 := (zpow_lt_zpow_iff_right₀ (by norm_num)).mp (hlow.trans_lt h.2)
  have hmax : max (floorLog2 num den - 52) (-1074) = floorLog2 num den - 52 := by omega
  obtain ⟨n, hn⟩ := Int.eq_ofNat_of_zero_le (by omega : 0 ≤ floorLog2 num den - 52 + 1074)
  have he : floorLog2 num den - 52 = (n : ℤ) - 1074 := by omega
  refine ⟨n, _, by omega, by omega, ?_, nearest_scaled hden _, last_place ?_ ?_⟩
  · rw [magnitudeOfRatio, if_neg hnum.ne']
    simp only [hmax, hn, ← he]
    rfl
  · rwa [← he, sub_add_cancel]
  · have hnext : floorLog2 num den - 52 + 53 = floorLog2 num den + 1 := by omega
    rwa [← he, hnext]

/-- **The double of a quotient is the one nearest to it.** -/
theorem rounds_ofRatio (minus : Bool) (hnum : 0 < num) (hden : 0 < den) (h : Moderate (num / den)) :
    (ofRatio minus num den).isNegative = minus ∧ ∃ q e, (ofRatio minus num den).Rounds (num / den) q e := by
  obtain ⟨n, q, hn, hn', hbits, hnearest, hlow, hhigh⟩ := exists_magnitudeOfRatio hnum hden h
  have hq : 2 ^ 52 ≤ q := hnearest.le (by exact_mod_cast hlow)
  have hq' : q ≤ 2 ^ 53 := hnearest.ge (by exact_mod_cast hhigh.le)
  have hfinite : n * 2 ^ 52 + q ≤ infinityBits := by
    have hinfinity : infinityBits = 2047 * 2 ^ 52 := rfl
    omega
  rw [ofRatio, hbits, Nat.min_eq_left hfinite]
  exact ⟨isNegative_ofMagnitude minus (by omega), q, _, fits_ofMagnitude minus hn hn' hq hq', hnearest, hlow, hhigh⟩

namespace Rounds

variable {x : Binary64} {r : ℚ} {q : Nat} {e : ℤ}

/-- The magnitude of the double is the natural number in its units. -/
theorem magnitude (h : x.Rounds r q e) : x.magnitude = q * 2 ^ e := by
  rw [Binary64.magnitude]
  rcases h.fits with ⟨hs, hp, _⟩ | ⟨hs, hp, hq⟩
  · rw [hs, hp]
  · rw [hs, hp, hq, zpow_add₀ (by norm_num)]
    push_cast
    ring

/-- A number that is a natural one in these units is represented. -/
theorem exact (h : x.Rounds r q e) {n : Nat} (hn : r = n * 2 ^ e) : x.magnitude = r := by
  have hquotient : r / 2 ^ e = n := by rw [hn, mul_div_assoc, div_self (by positivity), mul_one]
  have hnearest := h.nearest
  rw [hquotient] at hnearest
  rw [h.magnitude, hnearest.eq, hn]

theorem significand_pos (h : x.Rounds r q e) : 0 < x.significand := by
  have hlow := h.low
  have hhigh := h.nearest.high
  rcases h.fits with ⟨hs, _, _⟩ | ⟨hs, _, _⟩
  · have hpos : (0 : ℚ) < q := by linarith
    rw [hs]
    exact_mod_cast hpos
  · omega

/-- The sign has no part in rounding. -/
theorem neg (h : x.Rounds r q e) : x.neg.Rounds r q e := by
  refine ⟨⟨?_, ?_, ?_, ?_⟩, h.nearest, h.low, h.high⟩
  · rw [exponentField_neg]
    exact h.exponentField_gt
  · rw [exponentField_neg]
    exact h.exponentField_lt
  · rw [significand_neg, power_neg]
    exact h.fits
  · rw [fractionField_neg, significand_neg]
    exact h.fraction

theorem isFinite (h : x.Rounds r q e) : x.isFinite = true := by
  have hlt := h.exponentField_lt
  rw [Binary64.isFinite, decide_eq_true_iff]
  omega

end Rounds

/-! ## Operations -/

theorem rounds_ofScaled (minus : Bool) {m : Nat} (hm : 0 < m) {e : ℤ} (h : Moderate (m * 2 ^ e)) :
    (ofScaled minus m e).isNegative = minus ∧ ∃ q e', (ofScaled minus m e).Rounds (m * 2 ^ e) q e' := by
  unfold ofScaled
  split
  · next he =>
    obtain ⟨n, rfl⟩ := Int.eq_ofNat_of_zero_le he
    have hquotient : (m * 2 ^ ((n : ℕ) : ℤ) : ℚ) = (m * Nat.pow 2 n : ℕ) / (1 : ℕ) := by
      rw [Nat.cast_one, div_one, zpow_natCast]
      exact_mod_cast rfl
    rw [hquotient] at h ⊢
    exact rounds_ofRatio minus (Nat.mul_pos hm (Nat.pow_pos (by decide))) Nat.one_pos h
  · next he =>
    obtain ⟨n, rfl⟩ := Int.exists_eq_neg_ofNat (Int.le_of_lt (Int.not_le.mp he))
    have hquotient : (m * 2 ^ (-(n : ℤ)) : ℚ) = m / (Nat.pow 2 n : ℕ) := by
      rw [zpow_neg, zpow_natCast, ← div_eq_mul_inv]
      exact_mod_cast rfl
    rw [neg_neg, Int.toNat_natCast]
    rw [hquotient] at h ⊢
    exact rounds_ofRatio minus hm (Nat.pow_pos (by decide)) h

/-- **A product is rounded once.** -/
theorem rounds_mul {x y : Binary64} (hx : 0 < x.significand) (hy : 0 < y.significand)
    (h : Moderate (x.magnitude * y.magnitude)) : (x.mul y).isNegative = (x.isNegative != y.isNegative) ∧
      ∃ q e, (x.mul y).Rounds (x.magnitude * y.magnitude) q e := by
  have hproduct : x.magnitude * y.magnitude = (x.significand * y.significand : ℕ) * 2 ^ (x.power + y.power) := by
    rw [magnitude, magnitude, zpow_add₀ (by norm_num)]
    push_cast
    ring
  rw [hproduct] at h ⊢
  exact rounds_ofScaled _ (Nat.mul_pos hx hy) h

/-- **A quotient is rounded once.** -/
theorem rounds_div {x y : Binary64} (hx : 0 < x.significand) (hy : 0 < y.significand)
    (h : Moderate (x.magnitude / y.magnitude)) : (x.div y).isNegative = (x.isNegative != y.isNegative) ∧
      ∃ q e, (x.div y).Rounds (x.magnitude / y.magnitude) q e := by
  have hquotient : x.magnitude / y.magnitude =
      (x.significand * Nat.pow 2 (x.power - y.power).toNat : ℕ) /
        (y.significand * Nat.pow 2 (-(x.power - y.power)).toNat : ℕ) := by
    have hpowers : (2 : ℚ) ^ x.power / 2 ^ y.power =
        2 ^ (x.power - y.power).toNat / 2 ^ (-(x.power - y.power)).toNat := by
      rw [← zpow_sub₀ (by norm_num), zpow_eq_div (by norm_num)]
    have hcast (n : ℕ) : ((Nat.pow 2 n : ℕ) : ℚ) = 2 ^ n := by exact_mod_cast rfl
    rw [magnitude, magnitude, mul_div_mul_comm, hpowers, Nat.cast_mul, Nat.cast_mul, hcast, hcast, div_mul_div_comm]
  rw [hquotient] at h ⊢
  exact rounds_ofRatio _ (Nat.mul_pos hx (Nat.pow_pos (by decide))) (Nat.mul_pos hy (Nat.pow_pos (by decide))) h

/-- **A natural number of 53 bits is represented, and so is its product with a power of two.** -/
theorem magnitude_ofNat {a b : Nat} (ha : 0 < a) (ha' : a < 2 ^ 53) (hb : b ≤ 900) :
    (ofNat (a * 2 ^ b)).magnitude = a * 2 ^ b ∧ 0 < (ofNat (a * 2 ^ b)).significand ∧
      (ofNat (a * 2 ^ b)).isNegative = false := by
  have hone : (1 : ℚ) ≤ a := by exact_mod_cast ha
  have hlt : (a : ℚ) < 2 ^ 53 := by exact_mod_cast ha'
  have hquotient : ((a * 2 ^ b : ℕ) / (1 : ℕ) : ℚ) = a * 2 ^ b := by push_cast; ring
  have hbelow : (a * 2 ^ b : ℚ) < 2 ^ (53 + (b : ℤ)) := by
    rw [zpow_add₀ (by norm_num), zpow_natCast]
    exact mul_lt_mul_of_pos_right hlt (by positivity)
  have hmoderate : Moderate ((a * 2 ^ b : ℕ) / (1 : ℕ) : ℚ) := by
    rw [hquotient]
    constructor
    · calc (2 : ℚ) ^ (-1000 : ℤ) ≤ 1 := zpow_le_one_of_nonpos₀ (by norm_num) (by norm_num)
        _ ≤ a * 2 ^ b := one_le_mul_of_one_le_of_one_le hone (one_le_pow₀ (by norm_num))
    · exact hbelow.trans (zpow_lt_zpow_right₀ (by norm_num) (by omega))
  obtain ⟨hminus, q, e, h⟩ := rounds_ofRatio false (Nat.mul_pos ha (Nat.pow_pos (by decide))) Nat.one_pos hmoderate
  rw [hquotient] at h
  refine ⟨?_, h.significand_pos, hminus⟩
  have hle : e ≤ b := by
    have habove : (2 : ℚ) ^ (52 + e) ≤ a * 2 ^ b := by
      rw [zpow_add₀ (by norm_num), ← le_div_iff₀ (by positivity)]
      exact h.low
    have hexponents := (zpow_lt_zpow_iff_right₀ (by norm_num)).mp (habove.trans_lt hbelow)
    omega
  obtain ⟨n, hn⟩ := Int.eq_ofNat_of_zero_le (Int.sub_nonneg.mpr hle)
  refine h.exact (n := a * 2 ^ n) ?_
  push_cast
  rw [mul_assoc, ← zpow_natCast, ← zpow_natCast, ← zpow_add₀ (by norm_num), ← hn, sub_add_cancel]

/-! ## Zero -/

theorem significand_zero (minus : Bool) : (ofMagnitude minus 0).significand = 0 := by
  rw [significand, exponentField_ofMagnitude _ (by decide), fractionField_ofMagnitude _ (by decide)]
  rfl

theorem isFinite_zero (minus : Bool) : (ofMagnitude minus 0).isFinite = true := by
  rw [isFinite, exponentField_ofMagnitude _ (by decide)]
  rfl

/-- A product with zero is a zero. -/
theorem exists_mul_zero {x : Binary64} (y : Binary64) (hx : x.significand = 0) :
    ∃ minus, x.mul y = ofMagnitude minus 0 := by
  rw [mul, hx, Nat.zero_mul, ofScaled]
  split
  · rw [Nat.zero_mul]
    exact ⟨_, rfl⟩
  · exact ⟨_, rfl⟩

/-- Zero divided by a number is a zero. -/
theorem exists_div_zero {x : Binary64} (y : Binary64) (hx : x.significand = 0) :
    ∃ minus, x.div y = ofMagnitude minus 0 := by
  rw [div, hx, Nat.zero_mul]
  exact ⟨_, rfl⟩

end Binary64

end BulkLoad
