import BulkLoad.Number.Binary64
import BulkLoad.Number.Integer

/-!
# The shortest decimal of a double

A finite double stands for every real number that rounds to it. Among the decimals `c · 10 ^ k` in that interval,
`Binary64.shortest` takes one of the coarsest grid, that is, with the fewest digits, and on this grid the one nearest
to the double. Two layouts of these digits are in use: positional only (`Binary64.positional`), and positional for
moderate magnitudes with an exponent outside them (`Binary64.scientific`).

- `layDigits_of_nonneg`: a number without a fraction part is written without a point.
-/

namespace BulkLoad

/-- Which of two equally near decimals is taken. -/
inductive Tie
  | up
  | toEven
deriving DecidableEq, Repr

/-- The decimal number `coefficient · 10 ^ power`. -/
structure Decimal where
  coefficient : Nat
  power : Int
deriving DecidableEq, Repr

namespace Binary64

/-- The reals that round to a double, in quarters of its last place: the double is `4 · significand` of them. -/
structure Interval where
  low : Nat
  high : Nat
  closed : Bool

/-- The interval of a positive finite double. Below a power of two the doubles lie closer together. -/
def interval (x : Binary64) : Interval :=
  let m := x.significand
  { low := if x.fractionField = 0 ∧ 1 < x.exponentField then 4 * m - 1 else 4 * m - 2
    high := 4 * m + 2
    closed := m % 2 = 0 }

/-- Is the number of quarters `num / den` inside the interval? -/
def Interval.contains (i : Interval) (num den : Nat) : Bool :=
  if i.closed then i.low * den ≤ num && num ≤ i.high * den else i.low * den < num && num < i.high * den

/-- The multiple of `10 ^ k` inside the interval of `x` that is nearest to `x`, if there is one. -/
def onGrid? (tie : Tie) (x : Binary64) (k : Int) : Option Nat :=
  let quarter := x.power - 2
  let unit := Nat.pow 2 quarter.toNat * Nat.pow 10 (-k).toNat
  let step := Nat.pow 10 k.toNat * Nat.pow 2 (-quarter).toNat
  let value := 4 * x.significand * unit
  let c := value / step
  let lower := x.interval.contains (c * step) unit
  let upper := x.interval.contains ((c + 1) * step) unit
  let twice := 2 * (value % step)
  if lower && upper then
    if twice < step then some c
    else if step < twice then some (c + 1)
    else match tie with
      | .up => some (c + 1)
      | .toEven => some (c + c % 2)
  else if lower then some c
  else if upper then some (c + 1)
  else none

/-- Looks for the coarsest grid with a point in the interval, from `10 ^ k` downwards. -/
def coarsestFrom (tie : Tie) (x : Binary64) : Nat → Int → Decimal
  | 0, k => ⟨0, k⟩
  | fuel + 1, k =>
    match onGrid? tie x k with
    | some c => ⟨c, k⟩
    | none => coarsestFrom tie x fuel (k - 1)

/-- The decimal with the fewest digits that rounds to a positive finite double. The largest double is below
`10 ^ 309`, and every double is a multiple of the smallest, which lies above `10 ^ (-324)`. -/
def shortest (tie : Tie) (x : Binary64) : Decimal := coarsestFrom tie x 640 309

end Binary64

/-! ## Layouts -/

/-- The digits `ds` followed by `power` zeros, or with the point set so that `-power` digits follow it. -/
def layDigits (ds : List Char) (power : Int) : List Char :=
  if 0 ≤ power then ds ++ List.replicate power.toNat '0'
  else
    let places := (-power).toNat
    let padded := List.replicate (places + 1 - ds.length) '0' ++ ds
    padded.take (padded.length - places) ++ '.' :: padded.drop (padded.length - places)

theorem layDigits_of_nonneg {ds : List Char} {power : Int} (h : 0 ≤ power) :
    layDigits ds power = ds ++ List.replicate power.toNat '0' := by
  simp [layDigits, h]

/-- One digit before the point, an `e` and the exponent with its sign. -/
def layScientific (ds : List Char) (exponent : Int) : List Char :=
  let fraction := ds.drop 1
  ds.take 1 ++ (if fraction.isEmpty then [] else '.' :: fraction)
    ++ 'e' :: (if exponent < 0 then '-' else '+') :: natDigits exponent.natAbs

namespace Binary64

/-- A minus sign for a number that carries one. -/
def sign (x : Binary64) : List Char := if x.isNegative then ['-'] else []

/-- The text of a finite double without an exponent and, for a whole number, without a point. -/
def positional (x : Binary64) : List Char :=
  if x.significand = 0 then x.sign ++ ['0']
  else
    let d := x.shortest .up
    x.sign ++ layDigits (natDigits d.coefficient) d.power

/-- The text of any double: finite ones positional, the others by name. -/
def display (x : Binary64) : List Char :=
  if x.isFinite then x.positional
  else if x.isNaN then "NaN".toList
  else x.sign ++ "inf".toList

/-- The text of a finite double that always shows a fraction or an exponent; exponents from -5 to 15 are written
positionally. -/
def scientific (x : Binary64) : List Char :=
  if x.significand = 0 then x.sign ++ "0.0".toList
  else
    let d := x.shortest .toEven
    let ds := natDigits d.coefficient
    let exponent := d.power + ds.length - 1
    x.sign ++
      if exponent < -5 ∨ 15 < exponent then layScientific ds exponent
      else if 0 ≤ d.power then layDigits ds d.power ++ ".0".toList
      else layDigits ds d.power

end Binary64

end BulkLoad
