import BulkLoad.Json.Reading
import BulkLoad.Proofs.Calendar.ReadBack
import BulkLoad.Proofs.Number.Value

/-!
# Number literals

A number literal has an optional minus, digits, and optionally a fraction and an exponent part (`NumberLiteral`). The
number that it writes is a rational one (`NumberLiteral.value`).

`JsonNumber.take?_chars`: a literal is taken as a whole, whatever stands behind it. It is held as an integer or as a
double; while its digits have room in 64 bits, the double is computed from all of them (`JsonNumber.held?`).
-/

namespace BulkLoad

open List
open Calendar (Stops takeWhile_of_stops)

/-! ## The grammar -/

/-- The exponent part of a number literal: its letter, an optional sign and digits. -/
structure ExponentPart where
  mark : Char
  sign : List Char
  digits : List Char
  isMark : mark = 'e' ∨ mark = 'E'
  isSign : IsSign sign
  isNumeral : IsNumeral digits

namespace ExponentPart

/-- The text of an exponent part, if there is one. -/
def charsOf : Option ExponentPart → List Char
  | none => []
  | some p => p.mark :: (p.sign ++ p.digits)

/-- The power of ten that an exponent part stands for. -/
def value (p : ExponentPart) : Int :=
  if p.sign = ['-'] then -(digitsValue p.digits : Int) else digitsValue p.digits

/-- The power of ten that an optional exponent part stands for. -/
def valueOf : Option ExponentPart → Int
  | none => 0
  | some p => p.value

end ExponentPart

/-- A number literal: an optional minus, a whole part without zeros in front, and optionally a fraction and an exponent
part. The fraction has no digits when there is no point. -/
structure NumberLiteral where
  negative : Bool
  whole : List Char
  fraction : List Char
  exponent : Option ExponentPart
  isNumeral : IsNumeral whole
  isLeading : Leading whole
  isDigits : ∀ c ∈ fraction, c.isDigit = true

namespace NumberLiteral

/-- The text of a literal. -/
def chars (l : NumberLiteral) : List Char :=
  (if l.negative then ['-'] else []) ++ (l.whole ++ (pointed l.fraction ++ ExponentPart.charsOf l.exponent))

/-- The number that the digits of a literal spell without their point. -/
def significand (l : NumberLiteral) : Nat := digitsValue (l.whole ++ l.fraction)

/-- The power of ten by which the significand is scaled. -/
def power (l : NumberLiteral) : Int := ExponentPart.valueOf l.exponent - l.fraction.length

/-- The number that a literal writes. -/
def value (l : NumberLiteral) : ℚ := (if l.negative then -1 else 1) * (l.significand * 10 ^ l.power)

end NumberLiteral

/-- The text behind a number does not continue it. -/
def EndsNumber (rest : List Char) : Prop :=
  Stops rest ∧ rest.head? ≠ some '.' ∧ rest.head? ≠ some 'e' ∧ rest.head? ≠ some 'E'

/-! ## The reader -/

variable {ds rest : List Char}

theorem takeWhile_digits (hds : ∀ c ∈ ds, c.isDigit = true) (hrest : Stops rest) :
    (ds ++ rest).takeWhile Char.isDigit = ds := by
  rw [takeWhile_append_of_pos hds, takeWhile_of_stops hrest, append_nil]

theorem dropWhile_digits (hds : ∀ c ∈ ds, c.isDigit = true) (hrest : Stops rest) :
    (ds ++ rest).dropWhile Char.isDigit = rest := by
  rw [dropWhile_append_of_pos hds]
  cases rest with
  | nil => rfl
  | cons c cs => rw [dropWhile_cons, hrest c rfl]; rfl

/-- Further digits do not make a number smaller. -/
theorem digitsValue_le_append (as bs : List Char) : digitsValue as ≤ digitsValue (as ++ bs) := by
  rw [digitsValue_append]
  exact Nat.le_add_right_of_le (Nat.le_mul_of_pos_right _ (Nat.pow_pos (by decide)))

theorem digitsValue_concat (as : List Char) (c : Char) :
    digitsValue (as ++ [c]) = digitsValue as * 10 + digitValue c := by
  rw [digitsValue_append]
  simp [digitsValue]

namespace JsonNumber

/-- The double for a significand and a power of ten, with an optional exponent part; none where it overflows. -/
def held? (negative : Bool) (significand : Nat) (e : Int) : Option ExponentPart → Option Binary64
  | none => scaled? negative significand e
  | some p =>
    if Nat.pow 2 31 ≤ digitsValue p.digits then
      if significand ≠ 0 ∧ p.sign ≠ ['-'] then none else some (.ofMagnitude negative 0)
    else scaled? negative significand (e + p.value)

/-- A sign and digits begin with a minus if the sign is one. -/
theorem head?_minus {sign : List Char} (hsign : IsSign sign) (hds : IsNumeral ds) (rest : List Char) :
    (sign ++ (ds ++ rest)).head? = some '-' ↔ sign = ['-'] := by
  obtain ⟨c, cs, rfl⟩ := exists_cons_of_ne_nil hds.1
  have hc : c ≠ '-' := by
    rintro rfl
    exact hds.not_mem (c := '-') (by decide) mem_cons_self
  cases hsign <;> simp [hc]

/-- The exponent part of a literal is taken as a whole. -/
theorem takeExponent?_append (negative : Bool) (s : Nat) (e : Int) (p : ExponentPart) (hrest : Stops rest) :
    takeExponent? negative s e (p.sign ++ (p.digits ++ rest)) =
      (held? negative s e (some p)).map fun x => (.float x, rest) := by
  have hne : p.digits.isEmpty = false := List.isEmpty_eq_false_iff.mpr p.isNumeral.1
  unfold takeExponent? held? ExponentPart.value
  simp only [p.isNumeral.withoutSign p.isSign rest, takeWhile_digits p.isNumeral.2 hrest,
    dropWhile_digits p.isNumeral.2 hrest, head?_minus p.isSign p.isNumeral, hne, Bool.false_eq_true, if_false]
  split
  · by_cases hsign : p.sign = ['-'] <;> by_cases hs : s = 0 <;> simp [hsign, hs]
  · by_cases hsign : p.sign = ['-'] <;> simp [hsign, Int.sub_eq_add_neg]

/-- A number goes on with its exponent part, or ends. -/
theorem finish?_charsOf (negative : Bool) (s : Nat) (e : Int) (exponent : Option ExponentPart)
    (hrest : EndsNumber rest) :
    finish? negative s e (ExponentPart.charsOf exponent ++ rest) =
      (held? negative s e exponent).map fun x => (.float x, rest) := by
  obtain ⟨hstops, _, hlower, hupper⟩ := hrest
  cases exponent with
  | none =>
    rw [ExponentPart.charsOf, nil_append, finish?]
    · rfl
    · rintro cs rfl
      exact hlower rfl
    · rintro cs rfl
      exact hupper rfl
  | some p =>
    rw [ExponentPart.charsOf, cons_append, append_assoc, ← takeExponent?_append negative s e p hstops]
    rcases p.isMark with hmark | hmark <;> rw [hmark] <;> rfl

/-- Digits behind the point are taken as long as the significand has room for them. -/
theorem takeFraction?_append (negative : Bool) {rest : List Char} (hrest : Stops rest) :
    ∀ {fs : List Char} (as : List Char) (e : Int) (first : Bool), (∀ c ∈ fs, c.isDigit = true) →
      (first = true → fs ≠ []) → ∃ s e', takeFraction? negative (digitsValue as) e first (fs ++ rest) =
        finish? negative s e' rest ∧
        (digitsValue (as ++ fs) < Nat.pow 2 64 → s = digitsValue (as ++ fs) ∧ e' = e - fs.length)
  | [], as, e, first, _, hfirst => by
    have hlater : first = false := Bool.eq_false_iff.mpr fun h => hfirst h rfl
    refine ⟨digitsValue as, e, ?_, fun _ => by simp⟩
    rw [nil_append, hlater]
    cases rest with
    | nil => rfl
    | cons c cs =>
      rw [takeFraction?, hrest c rfl]
      rfl
  | c :: fs, as, e, first, hfs, _ => by
    obtain ⟨hc, hfs⟩ := forall_mem_cons.mp hfs
    rw [cons_append, takeFraction?, if_pos hc, ← digitsValue_concat]
    split
    · obtain ⟨s, e', htake, hexact⟩ := takeFraction?_append negative hrest (as ++ [c]) (e - 1) false hfs nofun
      refine ⟨s, e', htake, fun hlt => ?_⟩
      rw [append_assoc, singleton_append] at hexact
      obtain ⟨hs, he⟩ := hexact hlt
      exact ⟨hs, by rw [he, length_cons]; omega⟩
    · next hfull =>
      refine ⟨digitsValue as, e, by rw [dropWhile_digits hfs hrest], fun hlt => ?_⟩
      have hle := digitsValue_le_append (as ++ [c]) fs
      rw [append_assoc, singleton_append] at hle
      omega

/-- Digits of the whole part are taken as long as the significand has room for them. -/
theorem takeWhole?_append (negative : Bool) {rest : List Char} (hrest : Stops rest) :
    ∀ {ds : List Char} (as : List Char), (∀ c ∈ ds, c.isDigit = true) →
      if digitsValue (as ++ ds) < Nat.pow 2 64 then
        takeWhole? negative (digitsValue as) (ds ++ rest) = afterWhole? negative (digitsValue (as ++ ds)) rest
      else digitsValue as < Nat.pow 2 64 → ∃ s ds', (∀ c ∈ ds', c.isDigit = true) ∧
        takeWhole? negative (digitsValue as) (ds ++ rest) = afterLongWhole? negative s (ds' ++ rest)
  | [], as, _ => by
    rw [append_nil, nil_append]
    split
    · cases rest with
      | nil => rfl
      | cons c cs =>
        rw [takeWhole?, hrest c rfl]
        rfl
    · next hfull => exact fun hlt => absurd hlt hfull
  | c :: ds, as, hds => by
    obtain ⟨hc, hds⟩ := forall_mem_cons.mp hds
    have ih := takeWhole?_append negative hrest (as ++ [c]) hds
    rw [append_assoc, singleton_append] at ih
    rw [cons_append, takeWhole?, if_pos hc, ← digitsValue_concat]
    by_cases hroom : digitsValue (as ++ [c]) < Nat.pow 2 64
    · rw [if_pos hroom]
      split
      · next hlt => rwa [if_pos hlt] at ih
      · next hfull =>
        rw [if_neg hfull] at ih
        exact fun _ => ih hroom
    · have hle := digitsValue_le_append (as ++ [c]) ds
      rw [append_assoc, singleton_append] at hle
      rw [if_neg hroom, if_neg (by omega)]
      exact fun _ => ⟨_, c :: ds, forall_mem_cons.mpr ⟨hc, hds⟩, rfl⟩

/-- What a whole number without a point and an exponent is held as. -/
def ofWhole (minus : Bool) (n : Nat) : JsonNumber :=
  if !minus then natural n
  else if n = 0 ∨ Nat.pow 2 63 < n then float (Binary64.ofNat n).neg
  else negative (-(n : Int))

/-- A number that ends behind its whole part. -/
theorem afterWhole?_ends (minus : Bool) (n : Nat) (hrest : EndsNumber rest) :
    afterWhole? minus n rest = some (ofWhole minus n, rest) := by
  obtain ⟨_, hpoint, hlower, hupper⟩ := hrest
  rw [afterWhole?, ofWhole]
  · split
    · rfl
    · split <;> rfl
  · rintro cs rfl
    exact hpoint rfl
  · rintro cs rfl
    exact hlower rfl
  · rintro cs rfl
    exact hupper rfl

/-- What stands behind the whole part of a literal does not begin with a digit. -/
theorem stops_pointed (fs : List Char) (exponent : Option ExponentPart) (hrest : Stops rest) :
    Stops (pointed fs ++ (ExponentPart.charsOf exponent ++ rest)) := by
  cases fs with
  | cons c fs =>
    rintro d hd
    cases hd
    decide
  | nil =>
    cases exponent with
    | none => exact hrest
    | some p =>
      rintro d hd
      cases hd
      rcases p.isMark with hmark | hmark <;> rw [hmark] <;> decide

theorem stops_charsOf (exponent : Option ExponentPart) (hrest : Stops rest) :
    Stops (ExponentPart.charsOf exponent ++ rest) :=
  stops_pointed [] exponent hrest

/-- A literal with a fraction or an exponent part is a double, and so is one whose digits do not fit into 64 bits. -/
theorem afterWhole?_append (minus : Bool) (as : List Char) {fs : List Char} (exponent : Option ExponentPart)
    (hfs : ∀ c ∈ fs, c.isDigit = true) (hrest : EndsNumber rest) :
    let tail := pointed fs ++ (ExponentPart.charsOf exponent ++ rest)
    if fs = [] ∧ exponent = none then
      afterWhole? minus (digitsValue as) tail = some (ofWhole minus (digitsValue as), rest)
    else ∃ s e, afterWhole? minus (digitsValue as) tail =
        (held? minus s e exponent).map (fun x => (float x, rest)) ∧
      (digitsValue (as ++ fs) < Nat.pow 2 64 → s = digitsValue (as ++ fs) ∧ e = -(fs.length : Int)) := by
  cases fs with
  | cons c fs =>
    rw [if_neg (by simp)]
    obtain ⟨s, e, htake, hexact⟩ :=
      takeFraction?_append minus (stops_charsOf exponent hrest.1) as 0 true hfs fun _ => cons_ne_nil c fs
    refine ⟨s, e, htake.trans (finish?_charsOf minus s e exponent hrest), fun hlt => ?_⟩
    rw [Int.zero_sub] at hexact
    exact hexact hlt
  | nil =>
    cases exponent with
    | none =>
      rw [if_pos ⟨rfl, rfl⟩]
      exact afterWhole?_ends minus _ hrest
    | some p =>
      rw [if_neg (by simp)]
      refine ⟨digitsValue as, 0, ?_, fun _ => ⟨by rw [append_nil], rfl⟩⟩
      rw [← takeExponent?_append minus _ 0 p hrest.1]
      show afterWhole? minus (digitsValue as) ((p.mark :: (p.sign ++ p.digits)) ++ rest) = _
      rw [cons_append, append_assoc]
      rcases p.isMark with hmark | hmark <;> rw [hmark] <;> rfl

theorem afterLongWhole?_append (minus : Bool) (s : Nat) {ds fs : List Char} {exponent : Option ExponentPart}
    (hds : ∀ c ∈ ds, c.isDigit = true) (hfs : ∀ c ∈ fs, c.isDigit = true) (hrest : EndsNumber rest) :
    ∃ s' e, afterLongWhole? minus s (ds ++ (pointed fs ++ (ExponentPart.charsOf exponent ++ rest))) =
      (held? minus s' e exponent).map fun x => (float x, rest) := by
  have hstops := stops_pointed fs exponent hrest.1
  unfold afterLongWhole?
  simp only [takeWhile_digits hds hstops, dropWhile_digits hds hstops]
  cases fs with
  | cons c fs =>
    obtain ⟨s', e, htake, _⟩ := takeFraction?_append minus (stops_charsOf exponent hrest.1) (natDigits s) ds.length true
      hfs fun _ => cons_ne_nil c fs
    rw [digitsValue_natDigits] at htake
    exact ⟨s', e, htake.trans (finish?_charsOf minus s' e exponent hrest)⟩
  | nil =>
    refine ⟨s, ds.length, ?_⟩
    rw [pointed, nil_append]
    split
    · next rest' hpoint =>
      have hhead := congrArg head? hpoint
      cases exponent with
      | none => exact absurd hhead hrest.2.1
      | some p => rcases p.isMark with hmark | hmark <;> simp [ExponentPart.charsOf, hmark] at hhead
    · exact finish?_charsOf minus s _ exponent hrest

/-- A whole part is taken up to the first digit for which there is no room. -/
theorem takeUnsigned?_append (minus : Bool) (hds : IsNumeral ds) (hleading : Leading ds) (hrest : Stops rest) :
    if digitsValue ds < Nat.pow 2 64 then
      takeUnsigned? minus (ds ++ rest) = afterWhole? minus (digitsValue ds) rest
    else ∃ s ds', (∀ c ∈ ds', c.isDigit = true) ∧
      takeUnsigned? minus (ds ++ rest) = afterLongWhole? minus s (ds' ++ rest) := by
  rcases hleading with rfl | hhead
  · have hnone : rest.head?.any Char.isDigit = false := by
      cases rest with
      | nil => rfl
      | cons c cs => exact hrest c rfl
    rw [if_pos (by decide), singleton_append, takeUnsigned?, if_pos rfl, hnone]
    rfl
  · obtain ⟨c, cs, rfl⟩ := exists_cons_of_ne_nil hds.1
    obtain ⟨hc, hcs⟩ := forall_mem_cons.mp hds.2
    have hzero : c ≠ '0' := fun h => hhead (by rw [h]; rfl)
    have hfirst : digitsValue [c] = digitValue c := by simp [digitsValue]
    have htake := takeWhole?_append minus hrest [c] hcs
    rw [hfirst, singleton_append] at htake
    rw [cons_append, takeUnsigned?, if_neg hzero, if_pos hc]
    split
    · next hlt => rwa [if_pos hlt] at htake
    · next hfull =>
      rw [if_neg hfull] at htake
      exact htake ((digitValue_lt hc).trans (by decide))

theorem take?_signed (l : NumberLiteral) (rest : List Char) : take? (l.chars ++ rest) = takeUnsigned? l.negative
    (l.whole ++ (pointed l.fraction ++ (ExponentPart.charsOf l.exponent ++ rest))) := by
  unfold NumberLiteral.chars
  rw [append_assoc, append_assoc, append_assoc]
  cases l.negative with
  | true => rfl
  | false =>
    obtain ⟨c, cs, hwhole⟩ := exists_cons_of_ne_nil l.isNumeral.1
    have hc : c ≠ '-' := by
      rintro rfl
      exact l.isNumeral.not_mem (c := '-') (by decide) (by simp [hwhole])
    rw [hwhole]
    show take? (c :: _) = _
    unfold take?
    split
    · next h =>
      cases h
      exact absurd rfl hc
    · rfl

/-- **A literal is taken as a whole.** It is held as an integer if it is written as one and has room in 64 bits, and
otherwise as a double. The double comes from all digits of the literal and its power of ten if the digits have room in
64 bits. -/
theorem take?_chars (l : NumberLiteral) (hrest : EndsNumber rest) :
    if l.fraction = [] ∧ l.exponent = none ∧ l.significand < Nat.pow 2 64 then
      take? (l.chars ++ rest) = some (ofWhole l.negative l.significand, rest)
    else ∃ s e, take? (l.chars ++ rest) = (held? l.negative s e l.exponent).map (fun x => (float x, rest)) ∧
      (l.significand < Nat.pow 2 64 → s = l.significand ∧ e = -(l.fraction.length : Int)) := by
  have hstops := stops_pointed l.fraction l.exponent hrest.1
  have htake := takeUnsigned?_append l.negative l.isNumeral l.isLeading hstops
  have hle : digitsValue l.whole ≤ l.significand := digitsValue_le_append l.whole l.fraction
  rw [take?_signed]
  by_cases hroom : digitsValue l.whole < Nat.pow 2 64
  · rw [if_pos hroom] at htake
    have hafter := afterWhole?_append l.negative l.whole l.exponent l.isDigits hrest
    rw [htake]
    by_cases hwhole : l.fraction = [] ∧ l.exponent = none
    · have hsame : l.significand = digitsValue l.whole := by rw [NumberLiteral.significand, hwhole.1, append_nil]
      rw [if_pos ⟨hwhole.1, hwhole.2, hsame ▸ hroom⟩, hsame]
      rwa [if_pos hwhole] at hafter
    · rw [if_neg fun h => hwhole ⟨h.1, h.2.1⟩]
      rwa [if_neg hwhole] at hafter
  · -- The digits have no room, and no exact double is asked for.
    rw [if_neg hroom] at htake
    obtain ⟨s, ds, hds, htake⟩ := htake
    obtain ⟨s', e, hafter⟩ := @afterLongWhole?_append _ l.negative s ds l.fraction l.exponent hds l.isDigits hrest
    rw [if_neg fun h => hroom (hle.trans_lt h.2.2), htake]
    exact ⟨s', e, hafter, fun hlt => absurd (hle.trans_lt hlt) hroom⟩

end JsonNumber

end BulkLoad
