import BulkLoad.Calendar.Clock

/-!
# Moments by seconds

The moment a number of seconds after the start of 1970 in universal time, without leap seconds.

- `daysBefore_add_400`: any four hundred years have 146097 days.
-/

namespace BulkLoad.Calendar

/-- The number of days before the first of March of a year, counted from the first of March of year 0. -/
def daysBefore (y : Nat) : Nat := 365 * y + y / 4 - y / 100 + y / 400

theorem daysBefore_add_400 (y : Nat) : daysBefore (y + 400) = daysBefore y + 146097 := by
  unfold daysBefore
  omega

/-- The year, beginning in March, that holds a day, and the number of the day in it. -/
def yearOfDay (day : Nat) : Nat × Nat :=
  let y := (400 * day + 400) / 146097
  let y := if day < daysBefore y then y - 1 else if daysBefore (y + 1) ≤ day then y + 1 else y
  (y, day - daysBefore y)

/-- The month, counted from March, that holds a day of a year, and the day of the month from one. -/
def monthOfDay (day : Nat) : Nat × Nat :=
  let m := (5 * day + 2) / 153
  (m, day - (153 * m + 2) / 5 + 1)

/-- The moment a number of seconds after the start of 1970. -/
def ofSeconds? (seconds nano : Nat) : Option Moment := do
  let (y, rest) := yearOfDay (seconds / 86400 + 719468)
  let (m, d) := monthOfDay rest
  let date ← if m < 10 then Date.of? y (m + 3) d else Date.of? (y + 1) (m - 9) d
  let s := seconds % 86400
  let time ← Clock.of? (s / 3600) (s / 60 % 60) (s % 60) nano
  pure ⟨date, time⟩

end BulkLoad.Calendar
