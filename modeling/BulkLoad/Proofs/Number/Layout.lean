import BulkLoad.Proofs.Calendar.ReadBack
import BulkLoad.Proofs.Number.Value

/-!
# Printed doubles

A double is printed as the shortest decimal that is rounded to it. Moderate ones are printed without an exponent
(`Binary64.Positional`), and then the text is a decimal that denotes this number (`Binary64.Positional.written`). A text
with an exponent is no decimal (`Binary64.isDecimal_scientific_iff`).
-/

namespace BulkLoad

open List

variable {cs ds es : List Char}

/-! ## Texts of decimals -/

theorem isNumeral_natDigits (n : Nat) : IsNumeral (natDigits n) :=
  ⟨Nat.toDigits_ne_nil, fun _ hc => Nat.isDigit_of_mem_toDigits (by decide) (by decide) hc⟩

theorem writtenDecimal_pointed {sign : List Char} (hsign : IsSign sign) (hds : IsNumeral ds)
    (hes : ∀ c ∈ es, c.isDigit = true) : WrittenDecimal (sign ++ (ds ++ pointed es)) := by
  cases es with
  | nil =>
    rw [pointed, append_nil]
    exact .whole hsign hds
  | cons c es => exact .fraction hsign hds ⟨cons_ne_nil c es, hes⟩

/-- No letter stands in a decimal. -/
theorem not_mem_of_isDecimal {c : Char} (hc : c.isDigit = false) (hpoint : c ≠ '.') (hplus : c ≠ '+') (hminus : c ≠ '-')
    (h : isDecimal cs = true) : c ∉ cs := by
  have hsigns {sign : List Char} (hsign : IsSign sign) : c ∉ sign := by
    cases hsign <;> simp [hplus, hminus]
  rcases isDecimal_iff.mp h with (⟨hsign, hds⟩ | ⟨hsign, hds, hes⟩) | ⟨hsign, hes⟩
  · simp [hsigns hsign, hds.not_mem hc]
  · simp [hsigns hsign, hds.not_mem hc, hes.not_mem hc, hpoint]
  · simp [hsigns hsign, hes.not_mem hc, hpoint]

/-! ## Layouts -/

theorem pointed_of_ne_nil (h : es ≠ []) : pointed es = '.' :: es := by
  obtain ⟨c, cs, rfl⟩ := exists_cons_of_ne_nil h
  rfl

theorem digitsValue_paddedDigits (width n : Nat) : digitsValue (paddedDigits width n) = n :=
  ofDigitChars_paddedDigits width n

/-- Zeros behind a number. -/
theorem digitsValue_append_zeros (n k : Nat) : digitsValue (natDigits n ++ replicate k '0') = n * 10 ^ k := by
  have happend : digitsValue (natDigits n ++ replicate k '0') =
      Nat.ofDigitChars 10 (replicate k '0') (digitsValue (natDigits n)) := Nat.ofDigitChars_append 0
  rw [happend, Nat.ofDigitChars_replicate_zero, digitsValue_natDigits, Nat.mul_comm]

/-- A number with zeros behind it, and a fraction of zero. -/
theorem layDigits_whole (n k : Nat) : ∃ ds es, IsNumeral ds ∧ (∀ c ∈ es, c.isDigit = true) ∧
    layDigits (natDigits n) k ++ ".0".toList = ds ++ pointed es ∧
    (digitsValue (ds ++ es) / 10 ^ es.length : ℚ) = n * 10 ^ (k : Int) := by
  refine ⟨natDigits n ++ replicate k '0', ['0'], ⟨?_, ?_⟩, by simp, ?_, ?_⟩
  · simp [(isNumeral_natDigits n).1]
  · intro c hc
    rcases mem_append.mp hc with hc | hc
    · exact (isNumeral_natDigits n).2 c hc
    · rw [eq_of_mem_replicate hc]
      rfl
  · rw [layDigits_of_nonneg (Int.natCast_nonneg k)]
    rfl
  · have hzeros : replicate k '0' ++ ['0'] = replicate (k + 1) '0' := (replicate_succ' ..).symm
    rw [append_assoc, hzeros, digitsValue_append_zeros, zpow_natCast, length_singleton, pow_one]
    push_cast
    ring

/-- A number with a point among its digits. -/
theorem layDigits_fraction (n : Nat) {k : Nat} (hk : 0 < k) : ∃ ds es, IsNumeral ds ∧ (∀ c ∈ es, c.isDigit = true) ∧
    layDigits (natDigits n) (-(k : Int)) = ds ++ pointed es ∧
    (digitsValue (ds ++ es) / 10 ^ es.length : ℚ) = n * 10 ^ (-(k : Int)) := by
  have hlength : k + 1 ≤ (paddedDigits (k + 1) n).length := by
    simp only [paddedDigits, length_append, length_replicate]
    omega
  obtain ⟨ds, es, hsplit, hes, hlay⟩ : ∃ ds es, ds ++ es = paddedDigits (k + 1) n ∧ es.length = k ∧
      layDigits (natDigits n) (-(k : Int)) = ds ++ '.' :: es := by
    refine ⟨_, _, take_append_drop ((paddedDigits (k + 1) n).length - k) _, by rw [length_drop]; omega, ?_⟩
    rw [layDigits, if_neg (by omega)]
    simp only [neg_neg, Int.toNat_natCast]
    rfl
  have hdigits {c : Char} (hc : c ∈ ds ++ es) : c.isDigit = true := isDigit_of_mem_paddedDigits (hsplit ▸ hc)
  have hsum := congrArg length hsplit
  rw [length_append] at hsum
  refine ⟨ds, es, ⟨?_, fun c hc => hdigits (mem_append_left _ hc)⟩, fun c hc => hdigits (mem_append_right _ hc), ?_, ?_⟩
  · rw [← length_pos_iff]
    omega
  · rw [hlay, pointed_of_ne_nil]
    rw [← length_pos_iff]
    omega
  · rw [hsplit, digitsValue_paddedDigits, hes, zpow_neg, zpow_natCast]
    rfl

/-! ## Printed doubles -/

namespace Binary64

/-- The magnitude of the decimal that a double is printed as. -/
def printedMagnitude (x : Binary64) : ℚ :=
  if x.significand = 0 then 0 else (x.shortest .toEven).coefficient * 10 ^ (x.shortest .toEven).power

/-- The number of the decimal that a double is printed as. -/
def printed (x : Binary64) : ℚ := signFactor x.sign * x.printedMagnitude

/-- The power of ten of the first digit that a double is printed with. -/
def exponent (x : Binary64) : Int :=
  (x.shortest .toEven).power + (natDigits (x.shortest .toEven).coefficient).length - 1

/-- The double is printed without an exponent. -/
def Positional (x : Binary64) : Prop := x.significand = 0 ∨ -5 ≤ x.exponent ∧ x.exponent ≤ 15

theorem isSign_sign (x : Binary64) : IsSign x.sign := by
  unfold sign
  split
  · exact .minus
  · exact .none

/-- **A double without an exponent is printed as a decimal of its number.** -/
theorem Positional.written {x : Binary64} (h : x.Positional) :
    WrittenDecimal x.scientific ∧ decimalValue x.scientific = x.printed := by
  suffices hbody : ∃ ds es, IsNumeral ds ∧ (∀ c ∈ es, c.isDigit = true) ∧ x.scientific = x.sign ++ (ds ++ pointed es) ∧
      (digitsValue (ds ++ es) / 10 ^ es.length : ℚ) = x.printedMagnitude by
    obtain ⟨ds, es, hds, hes, htext, hvalue⟩ := hbody
    rw [htext, decimalValue_pointed x.isSign_sign hds, hvalue]
    exact ⟨writtenDecimal_pointed x.isSign_sign hds hes, rfl⟩
  unfold scientific printedMagnitude
  by_cases hzero : x.significand = 0
  · rw [if_pos hzero, if_pos hzero]
    exact ⟨['0'], ['0'], ⟨by simp, by simp⟩, by simp, rfl, by simp [digitsValue, digitValue]⟩
  · obtain ⟨hlow, hhigh⟩ := h.resolve_left hzero
    unfold exponent at hlow hhigh
    rw [if_neg hzero, if_neg hzero]
    simp only
    rw [if_neg (by omega)]
    generalize x.shortest .toEven = d
    by_cases hpower : 0 ≤ d.power
    · obtain ⟨k, hk⟩ := Int.eq_ofNat_of_zero_le hpower
      obtain ⟨ds, es, hds, hes, htext, hvalue⟩ := layDigits_whole d.coefficient k
      rw [if_pos hpower, hk]
      exact ⟨ds, es, hds, hes, by rw [← htext], hvalue⟩
    · obtain ⟨k, hk⟩ := Int.exists_eq_neg_ofNat (Int.le_of_lt (Int.not_le.mp hpower))
      obtain ⟨ds, es, hds, hes, htext, hvalue⟩ := layDigits_fraction d.coefficient (k := k) (by omega)
      rw [if_neg hpower, hk]
      exact ⟨ds, es, hds, hes, by rw [← htext], hvalue⟩

/-- **A double with an exponent is not printed as a decimal.** -/
theorem isDecimal_scientific_iff {x : Binary64} : isDecimal x.scientific = true ↔ x.Positional := by
  refine ⟨fun h => ?_, fun h => isDecimal_iff.mpr (Or.inl h.written.1)⟩
  by_contra hpositional
  unfold Positional exponent at hpositional
  obtain ⟨hzero, hout⟩ := not_or.mp hpositional
  refine not_mem_of_isDecimal (c := 'e') (by decide) (by decide) (by decide) (by decide) h ?_
  unfold scientific
  rw [if_neg hzero]
  simp only
  rw [if_pos (by omega)]
  simp [layScientific]

end Binary64

end BulkLoad
