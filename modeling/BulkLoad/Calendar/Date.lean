import BulkLoad.Number.Integer

/-!
# Dates

Days of the proleptic Gregorian calendar, with a year 0, from year -262143 to year 262142.

- `Date.previous?_next?`: the day before the next day is the day itself.
-/

namespace BulkLoad

/-- Every fourth year, of the full centuries every fourth. -/
def isLeapYear (y : Int) : Bool := y % 4 = 0 && (y % 100 ≠ 0 || y % 400 = 0)

/-- The number of days in a month. -/
def daysInMonth (y : Int) (m : Nat) : Nat :=
  if m = 2 then (if isLeapYear y then 29 else 28)
  else if m = 4 ∨ m = 6 ∨ m = 9 ∨ m = 11 then 30
  else 31

/-- A year, month and day that name a day of the calendar. -/
def IsDate (y : Int) (m d : Nat) : Prop :=
  -262143 ≤ y ∧ y ≤ 262142 ∧ 1 ≤ m ∧ m ≤ 12 ∧ 1 ≤ d ∧ d ≤ daysInMonth y m

instance (y : Int) (m d : Nat) : Decidable (IsDate y m d) := by unfold IsDate; infer_instance

/-- A day of the calendar. -/
structure Date where
  year : Int
  month : Nat
  day : Nat
  isDate : IsDate year month day
deriving DecidableEq, Repr

namespace Date

/-- The day with the given year, month and day, if there is one. -/
def of? (y : Int) (m d : Nat) : Option Date := if h : IsDate y m d then some ⟨y, m, d, h⟩ else none

/-- The day after. -/
def next? (t : Date) : Option Date :=
  if t.day < daysInMonth t.year t.month then of? t.year t.month (t.day + 1)
  else if t.month < 12 then of? t.year (t.month + 1) 1
  else of? (t.year + 1) 1 1

/-- The day before. -/
def previous? (t : Date) : Option Date :=
  if 1 < t.day then of? t.year t.month (t.day - 1)
  else if 1 < t.month then of? t.year (t.month - 1) (daysInMonth t.year (t.month - 1))
  else of? (t.year - 1) 12 31

theorem of?_self (t : Date) : of? t.year t.month t.day = some t := by simp [of?, t.isDate]

theorem eq_of_of? {y : Int} {m d : Nat} {t : Date} (h : of? y m d = some t) :
    t.year = y ∧ t.month = m ∧ t.day = d := by
  unfold of? at h
  split at h
  · cases h; exact ⟨rfl, rfl, rfl⟩
  · cases h

theorem previous?_next? {t u : Date} (h : t.next? = some u) : u.previous? = some t := by
  obtain ⟨_, _, h1, h12, hd, hm⟩ := t.isDate
  unfold next? at h
  split at h
  · obtain ⟨hy, hmo, hday⟩ := eq_of_of? h
    rw [previous?, if_pos (by omega), hy, hmo, hday, Nat.add_sub_cancel, of?_self]
  · have hlast : t.day = daysInMonth t.year t.month := by omega
    split at h
    · obtain ⟨hy, hmo, hday⟩ := eq_of_of? h
      rw [previous?, if_neg (by omega), if_pos (by omega), hy, hmo, Nat.add_sub_cancel, ← hlast, of?_self]
    · obtain ⟨hy, hmo, hday⟩ := eq_of_of? h
      have h12' : t.month = 12 := by omega
      have h31 : t.day = 31 := by rw [hlast, h12']; rfl
      have : u.year - 1 = t.year := by omega
      rw [previous?, if_neg (by omega), if_neg (by omega), this, ← h12', ← h31, of?_self]

/-- The text of a year: four digits, outside 0 to 9999 with a sign and at least four digits. -/
def yearText (y : Int) : List Char :=
  if 0 ≤ y ∧ y ≤ 9999 then paddedDigits 4 y.natAbs
  else (if y < 0 then '-' else '+') :: paddedDigits 4 y.natAbs

/-- The text `year-month-day`. -/
def text (t : Date) : List Char := yearText t.year ++ '-' :: paddedDigits 2 t.month ++ '-' :: paddedDigits 2 t.day

end Date

end BulkLoad
