import BulkLoad.Number.Shortest
import BulkLoad.Number.Decimal

/-!
# JSON numbers

A number literal that is an integer of 64 bits stays an integer; every other one becomes a double
(`JsonNumber.take?`). A double is computed from at most 64 bits of leading digits and one scaling by a power of ten, and
so it need not be the double nearest to the literal; a literal beyond the range of doubles is refused.

- `JsonNumber.asInt64?_natural`: an integer below `2 ^ 63` is that integer.
-/

namespace BulkLoad

/-- A number as it is held after reading. -/
inductive JsonNumber
  /-- An integer from 0 to `2 ^ 64 - 1`. -/
  | natural (n : Nat)
  /-- An integer from `-2 ^ 63` to -1. -/
  | negative (i : Int)
  | float (x : Binary64)
deriving DecidableEq, Repr

namespace JsonNumber

/-- The text of a number. -/
def chars : JsonNumber → List Char
  | natural n => natDigits n
  | negative i => intDigits i
  | float x => x.scientific

/-- The number as a 64-bit integer, if it is held as one and in range. -/
def asInt64? : JsonNumber → Option Int64
  | natural n => if n < Nat.pow 2 63 then some (Int64.ofInt n) else none
  | negative i => some (Int64.ofInt i)
  | float _ => none

/-- The number as a natural number, if it is held as one. -/
def asNat? : JsonNumber → Option Nat
  | natural n => some n
  | _ => none

/-- The number as a double. -/
def asBinary64 : JsonNumber → Binary64
  | natural n => .ofNat n
  | negative i => .ofRatio (i < 0) i.natAbs 1
  | float x => x

theorem asInt64?_natural {n : Nat} (h : n < Nat.pow 2 63) : (natural n).asInt64? = some (Int64.ofInt n) :=
  if_pos h

/-! ## Doubles from digits and a power of ten -/

/-- The largest power of ten that scaling uses at once. -/
def largestTenPower : Nat := 308

/-- Divides by `10 ^ (-e)` in steps of the largest power; three steps take every 64-bit number to zero. -/
def scaleDown : Nat → Binary64 → Int → Binary64
  | 0, x, _ => x
  | steps + 1, x, e =>
    if -(largestTenPower : Int) ≤ e then x.div (.ofNat (Nat.pow 10 (-e).toNat))
    else if x.significand = 0 then x
    else scaleDown steps (x.div (.ofNat (Nat.pow 10 largestTenPower))) (e + largestTenPower)

/-- `± significand · 10 ^ e` in double arithmetic; none when it overflows. -/
def scaled? (negative : Bool) (significand : Nat) (e : Int) : Option Binary64 :=
  let m := Binary64.ofNat significand
  let x :=
    if e < 0 then some (scaleDown 4 m e)
    else if e ≤ largestTenPower then
      let y := m.mul (.ofNat (Nat.pow 10 e.toNat))
      if y.isFinite then some y else none
    else if significand = 0 then some m
    else none
  x.map fun y => if negative then y.neg else y

/-! ## Taking a number from the front of a text -/

/-- Takes the exponent part behind its letter. An exponent beyond 32 bits is out of range, unless it makes the number
zero. -/
def takeExponent? (negative : Bool) (significand : Nat) (e : Int) (cs : List Char) : Option (JsonNumber × List Char) :=
  let digits := withoutSign cs
  let ds := digits.takeWhile Char.isDigit
  let rest := digits.dropWhile Char.isDigit
  let down := cs.head? = some '-'
  let n := digitsValue ds
  if ds.isEmpty then none
  else if Nat.pow 2 31 ≤ n then
    if significand ≠ 0 ∧ !down then none else some (.float (.ofMagnitude negative 0), rest)
  else (scaled? negative significand (if down then e - n else e + n)).map fun x => (.float x, rest)

/-- The number ends here, or goes on with an exponent. -/
def finish? (negative : Bool) (significand : Nat) (e : Int) : List Char → Option (JsonNumber × List Char)
  | 'e' :: cs => takeExponent? negative significand e cs
  | 'E' :: cs => takeExponent? negative significand e cs
  | cs => (scaled? negative significand e).map fun x => (.float x, cs)

/-- Takes digits after the point, as long as the significand stays below `2 ^ 64`; later digits are dropped. -/
def takeFraction? (negative : Bool) (significand : Nat) (e : Int) (first : Bool) :
    List Char → Option (JsonNumber × List Char)
  | [] => if first then none else finish? negative significand e []
  | c :: cs =>
    if c.isDigit then
      if significand * 10 + digitValue c < Nat.pow 2 64 then
        takeFraction? negative (significand * 10 + digitValue c) (e - 1) false cs
      else finish? negative significand e (cs.dropWhile Char.isDigit)
    else if first then none
    else finish? negative significand e (c :: cs)

/-- The digits of the whole part are used up: an integer, unless a point or an exponent follows. -/
def afterWhole? (negative : Bool) (significand : Nat) : List Char → Option (JsonNumber × List Char)
  | '.' :: cs => takeFraction? negative significand 0 true cs
  | 'e' :: cs => takeExponent? negative significand 0 cs
  | 'E' :: cs => takeExponent? negative significand 0 cs
  | cs =>
    if !negative then some (.natural significand, cs)
    else if significand = 0 ∨ Nat.pow 2 63 < significand then some (.float (Binary64.ofNat significand).neg, cs)
    else some (.negative (-(significand : Int)), cs)

/-- The whole part has more digits than a significand holds: each further digit counts as a power of ten. -/
def afterLongWhole? (negative : Bool) (significand : Nat) (cs : List Char) : Option (JsonNumber × List Char) :=
  let e : Int := (cs.takeWhile Char.isDigit).length
  match cs.dropWhile Char.isDigit with
  | '.' :: rest => takeFraction? negative significand e true rest
  | rest => finish? negative significand e rest

/-- Takes the further digits of the whole part. -/
def takeWhole? (negative : Bool) (significand : Nat) : List Char → Option (JsonNumber × List Char)
  | [] => afterWhole? negative significand []
  | c :: cs =>
    if c.isDigit then
      if significand * 10 + digitValue c < Nat.pow 2 64 then takeWhole? negative (significand * 10 + digitValue c) cs
      else afterLongWhole? negative significand (c :: cs)
    else afterWhole? negative significand (c :: cs)

/-- Takes a number without its sign. No digit may follow a leading zero. -/
def takeUnsigned? (negative : Bool) : List Char → Option (JsonNumber × List Char)
  | [] => none
  | c :: cs =>
    if c = '0' then
      if cs.head?.any Char.isDigit then none else afterWhole? negative 0 cs
    else if c.isDigit then takeWhole? negative (digitValue c) cs
    else none

/-- Takes a number from the front of a text. -/
def take? : List Char → Option (JsonNumber × List Char)
  | '-' :: cs => takeUnsigned? true cs
  | cs => takeUnsigned? false cs

end JsonNumber

end BulkLoad
