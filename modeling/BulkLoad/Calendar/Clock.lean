import BulkLoad.Calendar.Date

/-!
# Times of day and moments

A time of day has nanoseconds. A leap second keeps the number of the second that it follows and has a thousand million
nanoseconds more, and its text shows the next number. Only behind second 59 is that a number of its own, second 60: behind
any other second the text is that of an ordinary second. A `Moment` is a time of a day.

- `Clock.length_fractionText`: the text of a fraction has no digits, three, six or nine;
- `Moment.minus?_zero`: taking no minutes off changes nothing.
-/

namespace BulkLoad

/-- Hour, minute, second and nanosecond of a time of day; any second can be followed by a leap second. -/
def IsClock (h m s n : Nat) : Prop := h < 24 ∧ m < 60 ∧ s < 60 ∧ n < 2000000000

instance (h m s n : Nat) : Decidable (IsClock h m s n) := by unfold IsClock; infer_instance

/-- A time of day. -/
structure Clock where
  hour : Nat
  minute : Nat
  second : Nat
  nano : Nat
  isClock : IsClock hour minute second nano
deriving DecidableEq, Repr

namespace Clock

/-- The time of day with the given parts, if there is one. -/
def of? (h m s n : Nat) : Option Clock := if hc : IsClock h m s n then some ⟨h, m, s, n, hc⟩ else none

theorem of?_self (c : Clock) : of? c.hour c.minute c.second c.nano = some c := by simp [of?, c.isClock]

theorem eq_of_of? {h m s n : Nat} {c : Clock} (hc : of? h m s n = some c) : c.second = s ∧ c.nano = n := by
  unfold of? at hc
  split at hc
  · cases hc; exact ⟨rfl, rfl⟩
  · cases hc

/-- The fraction of a second, with three, six or nine digits: the fewest that are exact. -/
def fractionText (n : Nat) : List Char :=
  if n = 0 then []
  else if n % 1000000 = 0 then '.' :: paddedDigits 3 (n / 1000000)
  else if n % 1000 = 0 then '.' :: paddedDigits 6 (n / 1000)
  else '.' :: paddedDigits 9 n

theorem length_fractionText {n : Nat} (h : n < 1000000000) : (fractionText n).length ∈ [0, 4, 7, 10] := by
  unfold fractionText
  split
  · simp
  split
  · rw [List.length_cons, length_paddedDigits (by decide) (by simp; omega)]; simp
  split
  · rw [List.length_cons, length_paddedDigits (by decide) (by simp; omega)]; simp
  · rw [List.length_cons, length_paddedDigits (by decide) (by simp; omega)]; simp

/-- The text `hour:minute:second`, followed by the fraction of the second. -/
def text (c : Clock) : List Char :=
  paddedDigits 2 c.hour ++ ':' :: paddedDigits 2 c.minute
    ++ ':' :: paddedDigits 2 (c.second + c.nano / 1000000000) ++ fractionText (c.nano % 1000000000)

/-- The same second at another hour and minute. -/
def atMinute (c : Clock) (minutes : Nat) (h : minutes < 24 * 60) : Clock :=
  ⟨minutes / 60, minutes % 60, c.second, c.nano,
    ⟨by omega, Nat.mod_lt _ (by decide), c.isClock.2.2.1, c.isClock.2.2.2⟩⟩

end Clock

/-- A time of a day. -/
structure Moment where
  date : Date
  time : Clock
deriving DecidableEq, Repr

namespace Moment

/-- The texts of the date and of the time with a separator between them. -/
def textWith (separator : Char) (t : Moment) : List Char := t.date.text ++ separator :: t.time.text

/-- The text `date time`. -/
def text (t : Moment) : List Char := t.textWith ' '

/-- The moment a number of minutes earlier; none outside the calendar. The shift is by less than a day. -/
def minus? (t : Moment) (minutes : Int) : Option Moment :=
  let total : Int := t.time.hour * 60 + t.time.minute - minutes
  let day := if total < 0 then t.date.previous? else if total < 1440 then some t.date else t.date.next?
  day.map fun d => ⟨d, t.time.atMinute (total % 1440).toNat (by omega)⟩

theorem minus?_zero (t : Moment) : t.minus? 0 = some t := by
  obtain ⟨d, ⟨h, m, s, n, hc⟩⟩ := t
  have hh := hc.1
  have hm := hc.2.1
  have h1 : ¬ ((h : Int) * 60 + m - 0 < 0) := by omega
  have h2 : (h : Int) * 60 + m - 0 < 1440 := by omega
  have h3 : (((h : Int) * 60 + m - 0) % 1440).toNat = h * 60 + m := by omega
  have hq : (h * 60 + m) / 60 = h := by omega
  have hr : (h * 60 + m) % 60 = m := by omega
  simp only [minus?, if_neg h1, if_pos h2, Option.map_some, Clock.atMinute, h3, hq, hr]

end Moment

end BulkLoad
