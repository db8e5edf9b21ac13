import BulkLoad.Number.Binary64
import BulkLoad.Number.Integer
import BulkLoad.Text.Cut

/-!
# Decimal texts

Two grammars of decimal numbers, and the reading of a floating-point number.

- Exact decimals keep their text. A payload may carry one with an empty whole part (`isDecimal`); a table column wants
  digits before the point as well (`isStoredDecimal`). `isDecimal_of_isStoredDecimal`: what a column takes, a payload
  may carry.
- `readBinary64` reads a double: digits with an optional point and exponent, correctly rounded, or the name of an
  infinity or NaN in any case.
-/

namespace BulkLoad

open BulkLoad.Text

/-- The text without one leading sign. -/
def withoutSign : List Char → List Char
  | '-' :: cs => cs
  | '+' :: cs => cs
  | cs => cs

/-- Nothing but decimal digits. -/
def isDigits (cs : List Char) : Bool := cs.all Char.isDigit

/-- An optional sign, then digits, or a point with at least one digit after it and any number before. -/
def isDecimal (cs : List Char) : Bool :=
  match cutAt? '.' (withoutSign cs) with
  | none => isDigits (withoutSign cs) && !(withoutSign cs).isEmpty
  | some (whole, fraction) => isDigits whole && isDigits fraction && !fraction.isEmpty

/-- An optional sign, at least one digit, and optionally a point with at least one digit after it. -/
def isStoredDecimal (cs : List Char) : Bool :=
  match cutAt? '.' (withoutSign cs) with
  | none => isDigits (withoutSign cs) && !(withoutSign cs).isEmpty
  | some (whole, fraction) => isDigits whole && !whole.isEmpty && isDigits fraction && !fraction.isEmpty

theorem isDecimal_of_isStoredDecimal {cs : List Char} (h : isStoredDecimal cs = true) : isDecimal cs = true := by
  unfold isStoredDecimal at h
  unfold isDecimal
  split at h <;> simp_all

/-! ## Floating-point numbers -/

/-- Why a text is no floating-point number. -/
inductive FloatError
  | empty
  | invalid
deriving DecidableEq, Repr

/-- The wording of a floating-point error. -/
def FloatError.message : FloatError → String
  | .empty => "cannot parse float from empty string"
  | .invalid => "invalid float literal"

/-- The number that digits spell. -/
def digitsValue (cs : List Char) : Nat := cs.foldl (fun n c => 10 * n + digitValue c) 0

/-- The power of ten behind a mantissa: nothing, or an `e`, an optional sign and digits. -/
def readExponent : List Char → Option Int
  | [] => some 0
  | c :: cs =>
    if c ≠ 'e' ∧ c ≠ 'E' then none
    else
      let ds := withoutSign cs
      if ds.isEmpty || !isDigits ds then none
      else if cs.head? = some '-' then some (-(digitsValue ds : Int)) else some (digitsValue ds)

/-- An unsigned decimal number with an optional point and exponent. -/
def readMantissa (negative : Bool) (cs : List Char) : Option Binary64 :=
  let whole := cs.takeWhile Char.isDigit
  let rest := cs.dropWhile Char.isDigit
  let fraction := if rest.head? = some '.' then (rest.drop 1).takeWhile Char.isDigit else []
  let rest := if rest.head? = some '.' then (rest.drop 1).dropWhile Char.isDigit else rest
  if whole.isEmpty && fraction.isEmpty then none
  else (readExponent rest).map fun e => .ofDecimal negative (digitsValue (whole ++ fraction)) (e - fraction.length)

/-- The name of an infinity or NaN, in any case. -/
def readSpecial (negative : Bool) (cs : List Char) : Option Binary64 :=
  let name := String.ofList (cs.map Char.toLower)
  if name = "inf" ∨ name = "infinity" then some (.infinity negative)
  else if name = "nan" then some (.nan negative)
  else none

/-- Reads a floating-point number. -/
def readBinary64 (cs : List Char) : Except FloatError Binary64 :=
  if cs.isEmpty then .error .empty
  else
    let negative := cs.head? = some '-'
    let body := withoutSign cs
    match readMantissa negative body <|> readSpecial negative body with
    | some x => .ok x
    | none => .error .invalid

end BulkLoad
