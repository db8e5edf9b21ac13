import BulkLoad.Proofs.Number.Decimal
import Mathlib.Tactic.Linarith
import Mathlib.Tactic.Positivity
import Mathlib.Tactic.Ring

/-!
# The number that a decimal denotes

Digits with a point among them denote a rational number (`decimalValue`). A number can be written in many ways, as zeros
can stand in front and behind; without these and without a plus there is one way (`CanonicalDecimal`).

- `decimalValue_pointed`: the number of a sign, digits and digits of a fraction;
- `numeral_eq_of_value`: digits without zeros in front are known by the natural number that they spell;
- `CanonicalDecimal.eq_of_value`: canonical decimals are known by the number that they denote.
-/

namespace BulkLoad

open BulkLoad.Text List

/-! ## Digits -/

variable {cs ds es : List Char}

theorem digitValue_lt {c : Char} (h : c.isDigit = true) : digitValue c < 10 := by
  obtain ⟨_, hle⟩ := Char.isDigit_iff_toNat.mp h
  have hnine : '9'.toNat = '0'.toNat + 9 := rfl
  unfold digitValue
  omega

theorem digitValue_injective {c d : Char} (hc : c.isDigit = true) (hd : d.isDigit = true)
    (h : digitValue c = digitValue d) : c = d := by
  obtain ⟨hle, _⟩ := Char.isDigit_iff_toNat.mp hc
  obtain ⟨hle', _⟩ := Char.isDigit_iff_toNat.mp hd
  unfold digitValue at h
  exact Char.toNat_inj.mp (by omega)

theorem digitsValue_append (as bs : List Char) :
    digitsValue (as ++ bs) = digitsValue as * Nat.pow 10 bs.length + digitsValue bs := by
  have hfold : digitsValue (as ++ bs) = Nat.ofDigitChars 10 bs (digitsValue as) := foldl_append
  rw [hfold, Nat.ofDigitChars_eq_ofDigitChars_zero, Nat.mul_comm]
  rfl

theorem digitsValue_cons (c : Char) (cs : List Char) :
    digitsValue (c :: cs) = digitValue c * Nat.pow 10 cs.length + digitsValue cs := by
  have happend := digitsValue_append [c] cs
  simpa [digitsValue] using happend

theorem digitsValue_natDigits (n : Nat) : digitsValue (natDigits n) = n :=
  Nat.ofDigitChars_toDigits (by decide) (by decide)

theorem digitsValue_lt : ∀ {cs : List Char}, (∀ c ∈ cs, c.isDigit = true) → digitsValue cs < Nat.pow 10 cs.length
  | [], _ => Nat.one_pos
  | c :: cs, h => by
    have hc := digitValue_lt (h c mem_cons_self)
    have hcs := digitsValue_lt fun d hd => h d (mem_cons_of_mem c hd)
    have hpow : Nat.pow 10 (c :: cs).length = Nat.pow 10 cs.length * 10 := rfl
    rw [digitsValue_cons, hpow]
    nlinarith

/-- Digits are determined by their number and their value. -/
theorem digits_eq_of_length : ∀ {ds es : List Char}, (∀ c ∈ ds, c.isDigit = true) → (∀ c ∈ es, c.isDigit = true) →
    ds.length = es.length → digitsValue ds = digitsValue es → ds = es
  | [], es, _, _, hlength, _ => (length_eq_zero_iff.mp hlength.symm).symm
  | c :: ds, [], _, _, hlength, _ => nomatch hlength
  | c :: ds, d :: es, hds, hes, hlength, hvalue => by
    obtain ⟨hc, hds⟩ := forall_mem_cons.mp hds
    obtain ⟨hd, hes⟩ := forall_mem_cons.mp hes
    have hlength : ds.length = es.length := Nat.succ.inj hlength
    have hlt := digitsValue_lt hds
    have hlt' := digitsValue_lt hes
    rw [digitsValue_cons, digitsValue_cons, hlength] at hvalue
    rw [hlength] at hlt
    have hdiv (x : Nat) {y : Nat} (hy : y < Nat.pow 10 es.length) :
        (x * Nat.pow 10 es.length + y) / Nat.pow 10 es.length = x := by
      rw [Nat.add_comm, Nat.add_mul_div_right _ _ (Nat.zero_lt_of_lt hy), Nat.div_eq_of_lt hy, Nat.zero_add]
    have hfirst : digitValue c = digitValue d := by
      rw [← hdiv (digitValue c) hlt, hvalue, hdiv _ hlt']
    rw [digitValue_injective hc hd hfirst, digits_eq_of_length hds hes hlength (by rw [hfirst] at hvalue; omega)]

/-- No zero stands in front of the digits, unless it is the only one. -/
def Leading (ds : List Char) : Prop := ds = ['0'] ∨ ds.head? ≠ some '0'

/-- Digits without a zero in front are at least the power of ten of their number. -/
theorem le_digitsValue {c : Char} (hc : c.isDigit = true) (hzero : c ≠ '0') (cs : List Char) :
    Nat.pow 10 cs.length ≤ digitsValue (c :: cs) := by
  have hne : digitValue c ≠ 0 := fun h => hzero (digitValue_injective hc (by decide) h)
  rw [digitsValue_cons]
  nlinarith [Nat.pos_of_ne_zero hne]

/-- Numerals without zeros in front are no longer than those that are as large. -/
theorem length_le_of_value (hds : IsNumeral ds) (hes : IsNumeral es) (hleading : Leading es)
    (hvalue : digitsValue es ≤ digitsValue ds) : es.length ≤ ds.length := by
  rcases hleading with rfl | hhead
  · exact length_pos_of_ne_nil hds.1
  · obtain ⟨c, cs, rfl⟩ := exists_cons_of_ne_nil hes.1
    have hzero : c ≠ '0' := fun hc => hhead (by rw [hc]; rfl)
    have hle := le_digitsValue (hes.2 c mem_cons_self) hzero cs
    have hlt := digitsValue_lt hds.2
    exact (Nat.pow_lt_pow_iff_right (by decide)).mp (hle.trans_lt (hvalue.trans_lt hlt))

/-- Numerals without zeros in front are determined by their value. -/
theorem numeral_eq_of_value (hds : IsNumeral ds) (hes : IsNumeral es) (hleading : Leading ds) (hleading' : Leading es)
    (hvalue : digitsValue ds = digitsValue es) : ds = es :=
  digits_eq_of_length hds.2 hes.2
    ((length_le_of_value hes hds hleading hvalue.le).antisymm (length_le_of_value hds hes hleading' hvalue.ge)) hvalue

/-! ## Decimals -/

/-- The magnitude of a decimal without its sign. -/
def decimalMagnitude (cs : List Char) : ℚ :=
  match cutAt? '.' cs with
  | none => digitsValue cs
  | some (whole, fraction) => digitsValue (whole ++ fraction) / 10 ^ fraction.length

/-- The number that a decimal text denotes. -/
def decimalValue (cs : List Char) : ℚ :=
  if cs.head? = some '-' then -decimalMagnitude (withoutSign cs) else decimalMagnitude (withoutSign cs)

theorem decimalMagnitude_whole (hds : IsNumeral ds) : decimalMagnitude ds = digitsValue ds := by
  rw [decimalMagnitude, cutAt?_eq_none.mpr (hds.not_mem (by decide))]

theorem decimalMagnitude_fraction (hds : '.' ∉ ds) (es : List Char) :
    decimalMagnitude (ds ++ '.' :: es) = digitsValue (ds ++ es) / 10 ^ es.length := by
  rw [decimalMagnitude, cutAt?_append hds]

/-- The factor that a sign stands for. -/
def signFactor (sign : List Char) : ℚ := if sign = ['-'] then -1 else 1

/-- The number behind a sign. -/
theorem decimalValue_sign {sign : List Char} (hsign : IsSign sign) (hminus : cs.head? ≠ some '-')
    (hplus : cs.head? ≠ some '+') : decimalValue (sign ++ cs) = signFactor sign * decimalMagnitude cs := by
  have hbody := withoutSign_append hsign hminus hplus
  cases hsign with
  | none =>
    rw [nil_append] at hbody ⊢
    rw [decimalValue, if_neg hminus, hbody]
    exact (one_mul _).symm
  | minus =>
    rw [decimalValue, hbody]
    exact (neg_one_mul _).symm
  | plus =>
    rw [decimalValue, if_neg (by simp), hbody]
    exact (one_mul _).symm

/-- The digits of a fraction behind their point. Without digits there is no point. -/
def pointed : List Char → List Char
  | [] => []
  | es => '.' :: es

theorem decimalMagnitude_pointed (hds : IsNumeral ds) (es : List Char) :
    decimalMagnitude (ds ++ pointed es) = digitsValue (ds ++ es) / 10 ^ es.length := by
  cases es with
  | nil =>
    rw [pointed, append_nil, decimalMagnitude_whole hds, length_nil, pow_zero, div_one]
  | cons c es => exact decimalMagnitude_fraction (hds.not_mem (by decide)) (c :: es)

/-- The number of a written decimal. -/
theorem decimalValue_pointed {sign : List Char} (hsign : IsSign sign) (hds : IsNumeral ds) (es : List Char) :
    decimalValue (sign ++ (ds ++ pointed es)) = signFactor sign * (digitsValue (ds ++ es) / 10 ^ es.length) := by
  rw [← decimalMagnitude_pointed hds]
  obtain ⟨c, ds', rfl⟩ := exists_cons_of_ne_nil hds.1
  have hdigit := hds.2 c mem_cons_self
  refine decimalValue_sign hsign ?_ ?_
  all_goals
    rintro hc
    cases hc
    exact absurd hdigit (by decide)

/-! ## Canonical decimals -/

/-- A decimal without a plus, without zeros that could be left out in front or behind, and with a minus only if it is
not zero. -/
inductive CanonicalDecimal : List Char → Prop
  | mk {sign ds es : List Char} : (sign = [] ∨ sign = ['-'] ∧ digitsValue (ds ++ es) ≠ 0) → IsNumeral ds → Leading ds →
      (∀ c ∈ es, c.isDigit = true) → es.getLast? ≠ some '0' → CanonicalDecimal (sign ++ (ds ++ pointed es))

theorem abs_signFactor (sign : List Char) : |signFactor sign| = 1 := by
  unfold signFactor
  split <;> simp

/-- The number of a canonical decimal without its sign. -/
theorem abs_decimalValue {sign : List Char} (hsign : IsSign sign) (hds : IsNumeral ds) (es : List Char) :
    |decimalValue (sign ++ (ds ++ pointed es))| = digitsValue (ds ++ es) / 10 ^ es.length := by
  rw [decimalValue_pointed hsign hds, abs_mul, abs_signFactor, one_mul, abs_of_nonneg (by positivity)]

/-- A fraction that does not end with a zero is no longer than any other way to write its number. -/
theorem length_le_of_last {n k : Nat} (hes : ∀ c ∈ es, c.isDigit = true) (hlast : es.getLast? ≠ some '0')
    (h : n * Nat.pow 10 es.length = digitsValue (ds ++ es) * Nat.pow 10 k) : es.length ≤ k := by
  by_contra hlt
  obtain ⟨j, hj⟩ := Nat.exists_eq_add_of_lt (Nat.lt_of_not_le hlt)
  rcases eq_nil_or_concat' es with rfl | ⟨es, c, rfl⟩
  · simp at hlt
  have hpow : Nat.pow 10 (es ++ [c]).length = Nat.pow 10 j * 10 * Nat.pow 10 k := by
    rw [hj]
    show 10 ^ (k + j + 1) = 10 ^ j * 10 * 10 ^ k
    ring
  have hdigits : n * Nat.pow 10 j * 10 = digitsValue (ds ++ es) * 10 + digitValue c := by
    have happend := digitsValue_append (ds ++ es) [c]
    rw [append_assoc] at happend
    rw [hpow, ← Nat.mul_assoc] at h
    have hcancel := Nat.eq_of_mul_eq_mul_right (Nat.pow_pos (by decide) : 0 < Nat.pow 10 k) h
    rw [happend] at hcancel
    simpa [Nat.mul_assoc, digitsValue] using hcancel
  have hzero : digitValue c = 0 := by
    have hten := digitValue_lt (hes c (by simp))
    omega
  exact hlast (by rw [digitValue_injective (hes c (by simp)) (d := '0') (by decide) hzero]; simp)

theorem CanonicalDecimal.isSign {sign : List Char} {P : Prop} (h : sign = [] ∨ sign = ['-'] ∧ P) : IsSign sign := by
  rcases h with rfl | ⟨rfl, _⟩
  · exact .none
  · exact .minus

/-- Digits in front of the point and behind it are determined by the number that they spell without it, once it is known
how many stand behind. -/
theorem split_eq_of_value {ds' es' : List Char} (hds : IsNumeral ds) (hds' : IsNumeral ds') (hleading : Leading ds)
    (hleading' : Leading ds') (hes : ∀ c ∈ es, c.isDigit = true) (hes' : ∀ c ∈ es', c.isDigit = true)
    (hlength : es.length = es'.length) (hvalue : digitsValue (ds ++ es) = digitsValue (ds' ++ es')) :
    ds = ds' ∧ es = es' := by
  have hsplit := hvalue
  rw [digitsValue_append, digitsValue_append, ← hlength] at hsplit
  have hlt := digitsValue_lt hes
  have hlt' := digitsValue_lt hes'
  rw [← hlength] at hlt'
  have hwhole : digitsValue ds = digitsValue ds' := by
    have hdiv := congrArg (· / Nat.pow 10 es.length) hsplit
    simp only [Nat.add_comm (_ * _)] at hdiv
    rwa [Nat.add_mul_div_right _ _ (Nat.zero_lt_of_lt hlt), Nat.add_mul_div_right _ _ (Nat.zero_lt_of_lt hlt),
      Nat.div_eq_of_lt hlt, Nat.div_eq_of_lt hlt', Nat.zero_add, Nat.zero_add] at hdiv
  obtain rfl := numeral_eq_of_value hds hds' hleading hleading' hwhole
  exact ⟨rfl, digits_eq_of_length hes hes' hlength (Nat.add_left_cancel hsplit)⟩

/-- **Canonical decimals of the same number are the same.** -/
theorem CanonicalDecimal.eq_of_value {cs' : List Char} (h : CanonicalDecimal cs) (h' : CanonicalDecimal cs')
    (hvalue : decimalValue cs = decimalValue cs') : cs = cs' := by
  obtain @⟨sign, ds, es, hsign, hds, hleading, hes, hlast⟩ := h
  obtain @⟨sign', ds', es', hsign', hds', hleading', hes', hlast'⟩ := h'
  have hmagnitude :
      digitsValue (ds' ++ es') * Nat.pow 10 es.length = digitsValue (ds ++ es) * Nat.pow 10 es'.length := by
    have habs := congrArg (|·|) hvalue
    simp only [abs_decimalValue (isSign hsign) hds, abs_decimalValue (isSign hsign') hds'] at habs
    rw [div_eq_div_iff (by positivity) (by positivity)] at habs
    exact_mod_cast habs.symm
  have hlength : es.length = es'.length :=
    (length_le_of_last hes hlast hmagnitude).antisymm (length_le_of_last hes' hlast' hmagnitude.symm)
  have hdigits : digitsValue (ds ++ es) = digitsValue (ds' ++ es') := by
    rw [hlength] at hmagnitude
    exact Nat.eq_of_mul_eq_mul_right (Nat.pow_pos (by decide) : 0 < Nat.pow 10 es'.length) hmagnitude.symm
  obtain ⟨rfl, rfl⟩ := split_eq_of_value hds hds' hleading hleading' hes hes' hlength hdigits
  have hfactor : signFactor sign = signFactor sign' ∨ digitsValue (ds ++ es) = 0 := by
    rw [decimalValue_pointed (isSign hsign) hds, decimalValue_pointed (isSign hsign') hds,
      mul_eq_mul_right_iff] at hvalue
    simpa using hvalue
  -- Zero has no sign, and every other number has one factor.
  have hsigns : sign = sign' := by
    rcases hsign with rfl | ⟨rfl, hne⟩ <;> rcases hsign' with rfl | ⟨rfl, hne'⟩
    · rfl
    · exact absurd (hfactor.resolve_right hne') (by norm_num [signFactor])
    · exact absurd (hfactor.resolve_right hne) (by norm_num [signFactor])
    · rfl
  rw [hsigns]

end BulkLoad
