import BulkLoad.Number.Integer

/-!
# Durations

The text of a duration: a number in the largest of the units s, ms, µs and ns in which it is at least one.

- `durationUnit_le`: a duration is at least one of its unit, if it is anything at all.
-/

namespace BulkLoad

/-- The unit of a duration in nanoseconds, by its size and its name. -/
def durationUnit (nanos : Nat) : Nat × String :=
  if 1000000000 ≤ nanos then (1000000000, "s")
  else if 1000000 ≤ nanos then (1000000, "ms")
  else if 1000 ≤ nanos then (1000, "µs")
  else (1, "ns")

theorem durationUnit_le {nanos : Nat} (h : 0 < nanos) : (durationUnit nanos).1 ≤ nanos := by
  unfold durationUnit
  split
  · assumption
  split
  · assumption
  split
  · assumption
  · exact h

/-- The text of a duration with three digits after the point. -/
def durationText (nanos : Nat) : String :=
  let (unit, name) := durationUnit nanos
  let thousandths := (nanos * 1000 + unit / 2) / unit
  String.ofList (natDigits (thousandths / 1000) ++ '.' :: paddedDigits 3 (thousandths % 1000)) ++ name

end BulkLoad
