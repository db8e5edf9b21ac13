import BulkLoad.Proofs.Number.Layout
import BulkLoad.Proofs.Number.Rounding
import Mathlib.Data.Nat.Factorization.Basic
import Mathlib.Tactic.FieldSimp

/-!
# Short decimals

The shortest decimal of a double is looked for on coarser and coarser grids of powers of ten, in the interval of the
numbers that are rounded to the double (`Binary64.Covers`, `Binary64.Rounds.covers`). A grid with a point in the
interval is not passed over (`Binary64.onGrid?_ne_none`), and where a grid is wider than the last place of the double,
this point is the only one (`Binary64.Covers.unique`).

- `Binary64.Rounds.shortest`: a number of at most fifteen digits is the shortest decimal of its double;
- `Binary64.Rounds.printed`: so it is printed as it is, without an exponent from a hundred-thousandth up to `10 ^ 16`.
-/

namespace BulkLoad

namespace Binary64

variable {x : Binary64} {a b r : ℚ} {c : Nat} {k : ℤ}

/-! ## The interval of a double -/

/-- The number lies in the interval of the double. -/
def Covers (x : Binary64) (r : ℚ) : Prop :=
  if x.interval.closed then x.interval.low * 2 ^ (x.power - 2) ≤ r ∧ r ≤ x.interval.high * 2 ^ (x.power - 2)
  else x.interval.low * 2 ^ (x.power - 2) < r ∧ r < x.interval.high * 2 ^ (x.power - 2)

/-- What lies between two numbers of the interval lies in it. -/
theorem Covers.between (ha : x.Covers a) (hb : x.Covers b) (har : a ≤ r) (hrb : r ≤ b) : x.Covers r := by
  unfold Covers at *
  split at ha
  · next hclosed =>
    rw [if_pos hclosed] at hb ⊢
    exact ⟨ha.1.trans har, hrb.trans hb.2⟩
  · next hopen =>
    rw [if_neg hopen] at hb ⊢
    exact ⟨ha.1.trans_le har, hrb.trans_lt hb.2⟩

theorem Covers.bounds (h : x.Covers r) :
    x.interval.low * 2 ^ (x.power - 2) ≤ r ∧ r ≤ x.interval.high * 2 ^ (x.power - 2) := by
  unfold Covers at h
  split at h
  · exact h
  · exact ⟨h.1.le, h.2.le⟩

theorem zpow_sub_two (e : ℤ) : (2 : ℚ) ^ e = 4 * 2 ^ (e - 2) := by
  rw [zpow_sub₀ (by norm_num)]
  ring

/-- The magnitude of a double in quarters of its last place. -/
theorem magnitude_quarters (x : Binary64) : x.magnitude = 4 * x.significand * 2 ^ (x.power - 2) := by
  rw [magnitude, zpow_sub_two]
  ring

/-- The interval is no wider than one unit in the last place. -/
theorem Covers.sub_le (ha : x.Covers a) (hb : x.Covers b) : b - a ≤ 2 ^ x.power := by
  have hlow := ha.bounds.1
  have hhigh := hb.bounds.2
  have hwidth : (x.interval.high : ℚ) ≤ x.interval.low + 4 := by
    have hnat : x.interval.high ≤ x.interval.low + 4 := by
      unfold interval
      simp only
      split <;> omega
    exact_mod_cast hnat
  have hpos : (0 : ℚ) < 2 ^ (x.power - 2) := by positivity
  rw [zpow_sub_two]
  nlinarith

/-- A double lies in its interval. -/
theorem covers_magnitude (h : 0 < x.significand) : x.Covers x.magnitude := by
  have hpos : (0 : ℚ) < 2 ^ (x.power - 2) := by positivity
  have hlow : (x.interval.low : ℚ) < 4 * x.significand := by
    have hnat : x.interval.low < 4 * x.significand := by
      unfold interval
      simp only
      split <;> omega
    exact_mod_cast hnat
  have hhigh : (4 * x.significand : ℚ) < x.interval.high := by
    have hnat : 4 * x.significand < x.interval.high := by
      unfold interval
      simp only
      omega
    exact_mod_cast hnat
  have hbelow : x.interval.low * 2 ^ (x.power - 2) < x.magnitude := by
    rw [magnitude_quarters]
    exact mul_lt_mul_of_pos_right hlow hpos
  have habove : x.magnitude < x.interval.high * 2 ^ (x.power - 2) := by
    rw [magnitude_quarters]
    exact mul_lt_mul_of_pos_right hhigh hpos
  unfold Covers
  split
  · exact ⟨hbelow.le, habove.le⟩
  · exact ⟨hbelow, habove⟩

/-- The interval by quarters of the last place. -/
theorem covers_quarters {v : ℚ} : x.Covers (v * 2 ^ (x.power - 2)) ↔
    if x.interval.closed then x.interval.low ≤ v ∧ v ≤ x.interval.high
    else x.interval.low < v ∧ v < x.interval.high := by
  have hpos : (0 : ℚ) < 2 ^ (x.power - 2) := by positivity
  simp only [Covers, mul_le_mul_iff_of_pos_right hpos, mul_lt_mul_iff_of_pos_right hpos]

/-- The interval of a power of two is closed, and smaller below it. -/
theorem covers_of_power {v : ℚ} (hs : x.significand = 2 ^ 52) (hfraction : x.fractionField = 0)
    (hexponent : 1 < x.exponentField) (hlow : 4 * 2 ^ 52 - 1 ≤ v) (hhigh : v ≤ 4 * 2 ^ 52 + 2) :
    x.Covers (v * 2 ^ (x.power - 2)) := by
  rw [covers_quarters, interval]
  simp only [hs, hfraction, hexponent]
  norm_num at hlow hhigh ⊢
  exact ⟨hlow, hhigh⟩

/-- The interval of another double reaches to the middle of the way to the next ones. -/
theorem covers_of_nearest {v : ℚ} (hfraction : x.fractionField ≠ 0) (hpos : 0 < x.significand)
    (h : Nearest x.significand v) : x.Covers (4 * v * 2 ^ (x.power - 2)) := by
  have hcast : ((4 * x.significand - 2 : ℕ) : ℚ) = 4 * x.significand - 2 := by
    rw [Nat.cast_sub (by omega)]
    push_cast
    rfl
  rw [covers_quarters, interval]
  simp only [hfraction, false_and, if_false, hcast]
  push_cast
  split
  · exact ⟨by linarith [h.low], by linarith [h.high]⟩
  · next hodd =>
    have hstrict := h.odd (by simpa using hodd)
    exact ⟨by linarith [hstrict.1], by linarith [hstrict.2]⟩

/-- **A number lies in the interval of the double that it is rounded to.** -/
theorem Rounds.covers {q : Nat} {e : ℤ} (h : x.Rounds r q e) : x.Covers r := by
  have hpos : (0 : ℚ) < 2 ^ e := by positivity
  obtain ⟨v, hv⟩ : ∃ v, v = r / 2 ^ e := ⟨_, rfl⟩
  have hr : r = v * 2 ^ e := by rw [hv, div_mul_cancel₀ _ hpos.ne']
  have hlow := hv ▸ h.low
  have hhigh := hv ▸ h.high
  have hnearest := hv ▸ h.nearest
  rcases h.fits with ⟨hs, hp, _⟩ | ⟨hs, hp, hq⟩
  · have hquarters : r = 4 * v * 2 ^ (x.power - 2) := by rw [hr, hp, zpow_sub_two e]; ring
    rw [hquarters]
    by_cases hpower : x.significand = 2 ^ 52
    · have hcast : (q : ℚ) = 2 ^ 52 := by exact_mod_cast hs ▸ hpower
      exact covers_of_power hpower (h.fraction.mpr hpower) h.exponentField_gt (by linarith)
        (by linarith [hnearest.high])
    · exact covers_of_nearest (mt h.fraction.mp hpower) h.significand_pos (hs ▸ hnearest)
  · -- The next power of two: what is below it lies within one quarter.
    have hcast : (q : ℚ) = 2 ^ 53 := by exact_mod_cast hq
    have hquarters : r = 2 * v * 2 ^ (x.power - 2) := by
      have hhalf : x.power - 2 = e - 1 := by omega
      rw [hr, hhalf, zpow_sub₀ (by norm_num)]
      ring
    rw [hquarters]
    exact covers_of_power hs (h.fraction.mpr hs) h.exponentField_gt (by linarith [hnearest.low]) (by linarith)

/-! ## Grids -/

/-- A quarter of the last place, in units in which the step of a grid is a natural number as well. -/
def gridUnit (x : Binary64) (k : ℤ) : Nat := Nat.pow 2 (x.power - 2).toNat * Nat.pow 10 (-k).toNat

/-- The step of a grid in these units. -/
def gridStep (x : Binary64) (k : ℤ) : Nat := Nat.pow 10 k.toNat * Nat.pow 2 (-(x.power - 2)).toNat

/-- The last point of a grid that is not above the double. -/
def gridFloor (x : Binary64) (k : ℤ) : Nat := 4 * x.significand * x.gridUnit k / x.gridStep k

theorem gridUnit_pos (x : Binary64) (k : ℤ) : 0 < x.gridUnit k :=
  Nat.mul_pos (Nat.pow_pos (by decide)) (Nat.pow_pos (by decide))

theorem gridStep_pos (x : Binary64) (k : ℤ) : 0 < x.gridStep k :=
  Nat.mul_pos (Nat.pow_pos (by decide)) (Nat.pow_pos (by decide))

/-- The steps of a grid in quarters of the last place. -/
theorem gridStep_div_gridUnit (x : Binary64) (k : ℤ) :
    (x.gridStep k / x.gridUnit k : ℚ) = 10 ^ k / 2 ^ (x.power - 2) := by
  have hcast (n d : ℕ) : ((Nat.pow n d : ℕ) : ℚ) = (n : ℚ) ^ d := by exact_mod_cast rfl
  rw [zpow_eq_div (b := 10) (by norm_num) k, zpow_eq_div (b := 2) (by norm_num) (x.power - 2), gridStep, gridUnit]
  push_cast [hcast]
  field_simp

/-- A multiple of a power of ten, in quarters of the last place. -/
theorem multiple_quarters (x : Binary64) (k : ℤ) (c : Nat) :
    (c * 10 ^ k : ℚ) = (c * x.gridStep k : ℕ) / x.gridUnit k * 2 ^ (x.power - 2) := by
  rw [Nat.cast_mul, mul_div_assoc, gridStep_div_gridUnit, mul_assoc, div_mul_cancel₀ _ (by positivity)]

theorem contains_iff (i : Interval) {num den : Nat} (hden : 0 < den) : i.contains num den = true ↔
    if i.closed then (i.low : ℚ) ≤ num / den ∧ (num / den : ℚ) ≤ i.high
    else (i.low : ℚ) < num / den ∧ (num / den : ℚ) < i.high := by
  have hpos : (0 : ℚ) < den := by exact_mod_cast hden
  rw [Interval.contains]
  split
  · rw [Bool.and_eq_true, decide_eq_true_iff, decide_eq_true_iff, le_div_iff₀ hpos, div_le_iff₀ hpos]
    exact_mod_cast Iff.rfl
  · rw [Bool.and_eq_true, decide_eq_true_iff, decide_eq_true_iff, lt_div_iff₀ hpos, div_lt_iff₀ hpos]
    exact_mod_cast Iff.rfl

/-- Whether a point of a grid is in the interval is decided by natural numbers. -/
theorem contains_iff_covers (k : ℤ) (c : Nat) :
    x.interval.contains (c * x.gridStep k) (x.gridUnit k) = true ↔ x.Covers (c * 10 ^ k) := by
  rw [multiple_quarters x, covers_quarters, contains_iff _ (x.gridUnit_pos k)]

/-- A grid is asked for the points next to the double, below and above it. -/
theorem onGrid?_cases (tie : Tie) (x : Binary64) (k : ℤ) :
    x.Covers (x.gridFloor k * 10 ^ k) ∧ onGrid? tie x k = some (x.gridFloor k) ∨
    x.Covers ((x.gridFloor k + 1 : ℕ) * 10 ^ k) ∧ onGrid? tie x k = some (x.gridFloor k + 1) ∨
    (¬ x.Covers (x.gridFloor k * 10 ^ k) ∧ ¬ x.Covers ((x.gridFloor k + 1 : ℕ) * 10 ^ k)) ∧
      onGrid? tie x k = none := by
  rw [← contains_iff_covers, ← contains_iff_covers]
  unfold onGrid?
  simp only
  split
  · next hboth =>
    obtain ⟨hlower, hupper⟩ := Bool.and_eq_true_iff.mp hboth
    split
    · exact Or.inl ⟨hlower, rfl⟩
    split
    · exact Or.inr (Or.inl ⟨hupper, rfl⟩)
    cases tie with
    | up => exact Or.inr (Or.inl ⟨hupper, rfl⟩)
    | toEven =>
      rcases Nat.mod_two_eq_zero_or_one (x.gridFloor k) with hmod | hmod
      · exact Or.inl ⟨hlower, congrArg (fun m => some (x.gridFloor k + m)) hmod⟩
      · exact Or.inr (Or.inl ⟨hupper, congrArg (fun m => some (x.gridFloor k + m)) hmod⟩)
  split
  · next hlower => exact Or.inl ⟨hlower, rfl⟩
  split
  · next hupper => exact Or.inr (Or.inl ⟨hupper, rfl⟩)
  · next hlower hupper => exact Or.inr (Or.inr ⟨⟨hlower, hupper⟩, rfl⟩)

/-- What is found on a grid lies in the interval. -/
theorem covers_of_onGrid? {tie : Tie} (h : onGrid? tie x k = some c) : x.Covers (c * 10 ^ k) := by
  rcases onGrid?_cases tie x k with ⟨hcovers, hfound⟩ | ⟨hcovers, hfound⟩ | ⟨_, hnone⟩
  · cases h.symm.trans hfound
    exact hcovers
  · cases h.symm.trans hfound
    exact hcovers
  · cases h.symm.trans hnone

/-- The points of a grid next to the double. -/
theorem gridFloor_bounds (x : Binary64) (k : ℤ) :
    (x.gridFloor k * 10 ^ k : ℚ) ≤ x.magnitude ∧ x.magnitude < (x.gridFloor k + 1 : ℕ) * 10 ^ k := by
  have hpos : (0 : ℚ) < 2 ^ (x.power - 2) := by positivity
  have hunit : (0 : ℚ) < x.gridUnit k := by exact_mod_cast x.gridUnit_pos k
  have hle : x.gridFloor k * x.gridStep k ≤ 4 * x.significand * x.gridUnit k := Nat.div_mul_le_self _ _
  have hlt : 4 * x.significand * x.gridUnit k < (x.gridFloor k + 1) * x.gridStep k :=
    (Nat.div_lt_iff_lt_mul (x.gridStep_pos k)).mp (Nat.lt_succ_self _)
  rw [multiple_quarters x, multiple_quarters x, magnitude_quarters, mul_le_mul_iff_of_pos_right hpos,
    mul_lt_mul_iff_of_pos_right hpos, div_le_iff₀ hunit, lt_div_iff₀ hunit]
  exact ⟨by exact_mod_cast hle, by exact_mod_cast hlt⟩

/-- **A grid with a point in the interval is not passed over.** -/
theorem onGrid?_ne_none (tie : Tie) (hpos : 0 < x.significand) (h : x.Covers (c * 10 ^ k)) :
    onGrid? tie x k ≠ none := by
  intro hnone
  have hten : (0 : ℚ) < 10 ^ k := by positivity
  have hmiddle := covers_magnitude hpos
  obtain ⟨hbelow, habove⟩ := x.gridFloor_bounds k
  rcases onGrid?_cases tie x k with ⟨_, hfound⟩ | ⟨_, hfound⟩ | ⟨⟨hlower, hupper⟩, _⟩
  · cases hnone.symm.trans hfound
  · cases hnone.symm.trans hfound
  -- The point is above the double or below it, and so the next one on this side is in the interval as well.
  · rcases Nat.lt_or_ge (x.gridFloor k) c with hlt | hge
    · refine hupper (hmiddle.between h habove.le ?_)
      gcongr
      exact_mod_cast hlt
    · refine hlower (h.between hmiddle ?_ hbelow)
      gcongr

/-! ## The coarsest grid -/

/-- Where a grid is wider than the last place, there is at most one of its points in the interval. -/
theorem Covers.unique {c' : Nat} (h : x.Covers (c * 10 ^ k)) (h' : x.Covers (c' * 10 ^ k))
    (hgap : 2 ^ x.power < (10 : ℚ) ^ k) : c = c' := by
  have hten : (0 : ℚ) < 10 ^ k := by positivity
  have hle {a b : Nat} (ha : x.Covers (a * 10 ^ k)) (hb : x.Covers (b * 10 ^ k)) : b ≤ a := by
    have hsub := (ha.sub_le hb).trans_lt hgap
    have hlt : (b : ℚ) < a + 1 := by nlinarith
    have hlt' : b < a + 1 := by exact_mod_cast hlt
    omega
  exact (hle h' h).antisymm (hle h h')

/-- **The coarsest grid is found**: that of the number in the interval with the fewest digits. -/
theorem coarsestFrom_eq (tie : Tie) (hpos : 0 < x.significand) (h : x.Covers (c * 10 ^ k))
    (hgap : 2 ^ x.power < (10 : ℚ) ^ k) (hlast : ¬ 10 ∣ c) : ∀ (fuel : Nat) (j : ℤ), k ≤ j → j < k + fuel →
      coarsestFrom tie x fuel j = ⟨c, k⟩
  | 0, j, hj, hfuel => absurd hfuel (by push_cast; omega)
  | fuel + 1, j, hj, hfuel => by
    rw [coarsestFrom]
    obtain ⟨n, rfl⟩ := Int.le.dest hj
    cases hgrid : onGrid? tie x (k + n) with
    | none =>
      have hn : n ≠ 0 := by
        rintro rfl
        rw [Int.natCast_zero, add_zero] at hgrid
        exact onGrid?_ne_none tie hpos h hgrid
      exact coarsestFrom_eq tie hpos h hgap hlast fuel _ (by omega) (by push_cast at hfuel; omega)
    | some c' =>
      have hfound := covers_of_onGrid? hgrid
      have hmultiple : (c' * 10 ^ (k + n) : ℚ) = (c' * 10 ^ n : ℕ) * 10 ^ k := by
        rw [zpow_add₀ (by norm_num), zpow_natCast]
        push_cast
        ring
      rw [hmultiple] at hfound
      have hc := h.unique hfound hgap
      have hn : n = 0 := by
        by_contra hne
        refine hlast (hc ▸ Dvd.dvd.mul_left ?_ c')
        exact dvd_pow_self 10 hne
      subst hn
      rw [hc, pow_zero, mul_one, Int.natCast_zero, add_zero]

/-- Zeros at the end of a number belong to its power of ten. -/
theorem exists_last {n : Nat} (hn : 0 < n) : ∃ c j, n = c * 10 ^ j ∧ ¬ 10 ∣ c ∧ 0 < c := by
  obtain ⟨j, c, hlast, hc⟩ := Nat.exists_eq_pow_mul_and_not_dvd hn.ne' 10 (by decide)
  refine ⟨c, j, by rw [hc, Nat.mul_comm], hlast, Nat.pos_of_ne_zero ?_⟩
  rintro rfl
  exact hlast (dvd_zero 10)

/-- **A number of at most fifteen digits is the shortest decimal of its double.** -/
theorem Rounds.shortest {q : Nat} {e : ℤ} (h : x.Rounds r q e) (tie : Tie) (hr : r = c * 10 ^ k)
    (hdigits : c < 10 ^ 15) (hlast : ¬ 10 ∣ c) (hlow : -330 ≤ k) (hhigh : k ≤ 309) : x.shortest tie = ⟨c, k⟩ := by
  have hpos : (0 : ℚ) < 2 ^ e := by positivity
  have hgap : 2 ^ x.power < (10 : ℚ) ^ k := by
    have hten : (0 : ℚ) < 10 ^ k := by positivity
    have hpower : (2 : ℚ) ^ x.power ≤ 2 ^ (e + 1) := by
      refine zpow_le_zpow_right₀ (by norm_num) ?_
      rcases h.fits with ⟨_, hp, _⟩ | ⟨_, hp, _⟩ <;> omega
    have hnumber : (2 ^ 52 : ℚ) * 2 ^ e ≤ c * 10 ^ k := hr ▸ (le_div_iff₀ hpos).mp h.low
    have hlt : (c : ℚ) < 10 ^ 15 := by exact_mod_cast hdigits
    have hbound : (2 ^ 52 : ℚ) * 2 ^ e < 10 ^ 15 * 10 ^ k := hnumber.trans_lt (mul_lt_mul_of_pos_right hlt hten)
    rw [zpow_add_one₀ (by norm_num)] at hpower
    norm_num at hbound
    linarith
  exact coarsestFrom_eq tie h.significand_pos (hr ▸ h.covers) hgap hlast 640 309 hhigh (by omega)

/-! ## Printed numbers -/

/-- The digits of a number tell its power of ten. -/
theorem natDigits_bounds (hc : 0 < c) : 10 ^ ((natDigits c).length - 1) ≤ c ∧ c < 10 ^ (natDigits c).length := by
  have hlength : 0 < (natDigits c).length := List.length_pos_iff.mpr (isNumeral_natDigits c).1
  have hle (n : Nat) (hn : 0 < n) : (natDigits c).length ≤ n ↔ c < 10 ^ n := Nat.length_toDigits_le_iff (by decide) hn
  refine ⟨?_, (hle _ hlength).mp (Nat.le_refl _)⟩
  rcases Nat.eq_zero_or_pos ((natDigits c).length - 1) with hone | hmore
  · rw [hone]
    exact hc
  · by_contra hlt
    have hshort := (hle _ hmore).mpr (not_le.mp hlt)
    omega

/-- The power of ten of the first digit. -/
theorem exponent_bounds (h : x.shortest .toEven = ⟨c, k⟩) (hc : 0 < c) :
    (10 : ℚ) ^ x.exponent ≤ c * 10 ^ k ∧ (c * 10 ^ k : ℚ) < 10 ^ (x.exponent + 1) := by
  have hten : (0 : ℚ) < 10 ^ k := by positivity
  obtain ⟨hlow, hhigh⟩ := natDigits_bounds hc
  obtain ⟨n, hn⟩ : ∃ n, (natDigits c).length = n + 1 :=
    Nat.exists_eq_succ_of_ne_zero (List.length_pos_iff.mpr (isNumeral_natDigits c).1).ne'
  rw [hn] at hlow hhigh
  have hexponent : x.exponent = n + k := by
    rw [exponent, h]
    simp only [hn]
    push_cast
    ring
  rw [hexponent]
  constructor
  · rw [zpow_add₀ (by norm_num), zpow_natCast]
    gcongr
    exact_mod_cast hlow
  · have hsum : (n : ℤ) + k + 1 = ((n + 1 : ℕ) : ℤ) + k := by push_cast; ring
    rw [hsum, zpow_add₀ (by norm_num), zpow_natCast]
    gcongr
    exact_mod_cast hhigh

/-- **A number of at most fifteen digits is printed as it is**, without an exponent if it is neither small nor large. -/
theorem Rounds.printed {q s : Nat} {e p : ℤ} (h : x.Rounds r q e) (hr : r = s * 10 ^ p) (hs : 0 < s)
    (hdigits : s < 10 ^ 15) (hlow : -22 ≤ p) (hhigh : p ≤ 22) :
    x.printedMagnitude = r ∧ (x.Positional ↔ (10 : ℚ) ^ (-5 : ℤ) ≤ r ∧ r < (10 : ℚ) ^ (16 : ℤ)) := by
  obtain ⟨c, j, hsplit, hlast, hc⟩ := exists_last hs
  have hj : j < 15 := by
    have hle : 10 ^ j ≤ s := hsplit ▸ Nat.le_mul_of_pos_left _ hc
    exact (Nat.pow_lt_pow_iff_right (by decide)).mp (hle.trans_lt hdigits)
  have hr' : r = c * 10 ^ (p + j) := by
    rw [hr, hsplit, zpow_add₀ (by norm_num), zpow_natCast]
    push_cast
    ring
  have hle : c ≤ s := hsplit ▸ Nat.le_mul_of_pos_right _ (Nat.pow_pos (by decide))
  have hshortest := h.shortest .toEven hr' (hle.trans_lt hdigits) hlast (by omega) (by omega)
  have hne := h.significand_pos.ne'
  obtain ⟨hfirst, hnext⟩ := exponent_bounds hshortest hc
  rw [← hr'] at hfirst hnext
  constructor
  · rw [printedMagnitude, if_neg hne, hshortest, hr']
  · rw [Positional, or_iff_right hne]
    constructor
    · rintro ⟨hmin, hmax⟩
      exact ⟨(zpow_le_zpow_right₀ (by norm_num) hmin).trans hfirst,
        hnext.trans_le (zpow_le_zpow_right₀ (by norm_num) (by omega))⟩
    · rintro ⟨hmin, hmax⟩
      have hmin' := (zpow_lt_zpow_iff_right₀ (by norm_num)).mp (hmin.trans_lt hnext)
      have hmax' := (zpow_lt_zpow_iff_right₀ (by norm_num)).mp (hfirst.trans_lt hmax)
      omega

end Binary64

end BulkLoad
