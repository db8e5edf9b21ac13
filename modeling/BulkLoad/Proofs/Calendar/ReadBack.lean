import BulkLoad.Calendar.Reading

/-!
# Reading dates and times back

Dates are read as what they were printed for (`readDate_text`), every year with its sign. So are times and moments with
every number of fraction digits, and with a leap second after second 59, which is printed as second 60. A leap second after
another second is printed as the second after that, and read as that second (`Clock.readBack`, `readClock_text`,
`readMoment_text`, `readZoned_text`). A reader takes what was printed off the front of a text, so the readers of the parts
compose.

Whatever is read, leap seconds follow second 59 only (`proper_readClock`, `proper_readMomentWith`, `proper_readZoned`,
`proper_readInternetTime`).
-/

namespace BulkLoad

open List

/-! ## Leap seconds -/

namespace Clock

/-- The time is in no leap second, or in one that follows second 59. -/
def Proper (t : Clock) : Prop := 1000000000 ≤ t.nano → t.second = 59

/-- The time that the text of a time names: a leap second that does not follow second 59 is taken for the next second. -/
def readBack (t : Clock) : Clock :=
  if h : 1000000000 ≤ t.nano ∧ t.second ≠ 59 then
    ⟨t.hour, t.minute, t.second + 1, t.nano - 1000000000, by
      obtain ⟨hh, hm, hs, hn⟩ := t.isClock
      exact ⟨hh, hm, by omega, by omega⟩⟩
  else t

theorem readBack_of_proper {t : Clock} (h : t.Proper) : t.readBack = t := by
  rw [readBack, dif_neg]
  rintro ⟨hn, hs⟩
  exact hs (h hn)

/-- What is read back is proper. -/
theorem proper_readBack (t : Clock) : t.readBack.Proper := by
  have hn := t.isClock.2.2.2
  unfold readBack
  split
  · intro hleap
    change 1000000000 ≤ t.nano - 1000000000 at hleap
    omega
  · next hproper => exact fun hleap => Decidable.not_not.mp fun hs => hproper ⟨hleap, hs⟩

/-- **A time is read back exactly when it is proper.** -/
theorem readBack_eq_self {t : Clock} : t.readBack = t ↔ t.Proper :=
  ⟨fun h => h ▸ t.proper_readBack, readBack_of_proper⟩

end Clock

namespace Moment

/-- The moment that the text of a moment names. -/
def readBack (t : Moment) : Moment := { t with time := t.time.readBack }

theorem readBack_eq_self {t : Moment} : t.readBack = t ↔ t.time.Proper := by
  rw [← Clock.readBack_eq_self]
  exact ⟨fun h => congrArg Moment.time h, fun h => by rw [readBack, h]⟩

/-- A shift by minutes leaves the second as it is. -/
theorem proper_of_minus? {t u : Moment} {minutes : Int} (h : t.minus? minutes = some u) (ht : t.time.Proper) :
    u.time.Proper := by
  obtain ⟨d, _, rfl⟩ := Option.map_eq_some_iff.mp h
  exact ht

end Moment

/-! ## Digits -/

theorem isDigit_of_mem_paddedDigits {width n : Nat} {c : Char} (h : c ∈ paddedDigits width n) : c.isDigit = true := by
  rcases mem_append.mp h with hc | hc
  · rw [eq_of_mem_replicate hc]
    rfl
  · exact Nat.isDigit_of_mem_toDigits (by decide) (by decide) hc

/-- Zeros in front of a number do not change it. -/
theorem ofDigitChars_paddedDigits (width n : Nat) : Nat.ofDigitChars 10 (paddedDigits width n) 0 = n := by
  rw [paddedDigits, Nat.ofDigitChars_append, Nat.ofDigitChars_replicate_zero, Nat.mul_zero]
  exact Nat.ofDigitChars_toDigits (by decide) (by decide)

theorem paddedDigits_eq_cons (width n : Nat) : ∃ c cs, paddedDigits width n = c :: cs ∧ c.isDigit = true := by
  have hne : paddedDigits width n ≠ [] := append_ne_nil_of_right_ne_nil _ Nat.toDigits_ne_nil
  obtain ⟨c, cs, hcs⟩ := exists_cons_of_ne_nil hne
  exact ⟨c, cs, hcs, isDigit_of_mem_paddedDigits (by rw [hcs]; exact mem_cons_self)⟩

theorem isBlank_of_isDigit {c : Char} (h : c.isDigit = true) : Text.isBlank c = false := by
  have hrange : 0x30 ≤ c.toNat ∧ c.toNat ≤ 0x39 := by
    simp only [Char.isDigit, Bool.and_eq_true, decide_eq_true_eq, ge_iff_le, UInt32.le_iff_toNat_le] at h
    exact h
  have hall : ∀ n ≤ 0x39, 0x30 ≤ n → ((0x09 ≤ n && n ≤ 0x0d) || n == 0x20 || n == 0x85 || n == 0xa0 || n == 0x1680 ||
      (0x2000 ≤ n && n ≤ 0x200a) || n == 0x2028 || n == 0x2029 || n == 0x202f || n == 0x205f || n == 0x3000) = false := by
    decide
  exact hall _ hrange.2 hrange.1

namespace Calendar

theorem trimStart_paddedDigits (width n : Nat) (rest : List Char) :
    Text.trimStart (paddedDigits width n ++ rest) = paddedDigits width n ++ rest := by
  obtain ⟨c, cs, hcs, hc⟩ := paddedDigits_eq_cons width n
  refine Text.trimStart_eq_self ?_
  rw [hcs]
  simpa using isBlank_of_isDigit hc

/-! ## Fields -/

theorem ok_bind {α β : Type} (a : α) (f : α → Except ReadError β) : (Except.ok a >>= f) = f a := rfl

theorem run_literal (c : Char) (rest : List Char) : (literal c).run (c :: rest) = .ok ((), rest) := by
  simp [literal]
  rfl

/-- A text that does not go on with a digit. -/
def Stops (rest : List Char) : Prop := ∀ c ∈ rest.head?, c.isDigit = false

theorem takeWhile_of_stops {rest : List Char} (h : Stops rest) : rest.takeWhile Char.isDigit = [] := by
  cases rest with
  | nil => rfl
  | cons c rest => rw [takeWhile_cons, h c rfl]; rfl

/-- The digits in front of a text that is cut to a width. -/
theorem takeWhile_paddedDigits (width n : Nat) {rest : List Char} (h : Stops rest) :
    (paddedDigits width n ++ rest).takeWhile Char.isDigit = paddedDigits width n := by
  rw [takeWhile_append_of_pos fun c hc => isDigit_of_mem_paddedDigits hc, takeWhile_of_stops h, append_nil]

/-- A reader of a number takes the digits that it finds within its width. -/
theorem run_number {width : Option Nat} {k n : Nat} (hlt : n < Nat.pow 2 63) {rest : List Char}
    (hfound : (width.elim (paddedDigits k n ++ rest) ((paddedDigits k n ++ rest).take ·)).takeWhile Char.isDigit =
      paddedDigits k n) : (number width).run (paddedDigits k n ++ rest) = .ok (n, rest) := by
  have hvalue := ofDigitChars_paddedDigits k n
  have hdrop : (paddedDigits k n ++ rest).drop (paddedDigits k n).length = rest := drop_left
  obtain ⟨c, cs, hcs, _⟩ := paddedDigits_eq_cons k n
  rw [hcs] at hfound hvalue hdrop ⊢
  rw [cons_append] at hfound hdrop ⊢
  simp only [number, StateT.run_bind, StateT.run_get, pure_bind, hfound, hdrop, isEmpty_cons, Bool.false_eq_true,
    if_false, StateT.run_set, numberOf, hvalue, if_pos hlt]
  rfl

/-- A number that fills its width is taken, whatever follows. -/
theorem run_number_full {k n : Nat} (hk : 0 < k) (hlt : n < Nat.pow 10 k) (hsmall : n < Nat.pow 2 63)
    (rest : List Char) : (number (some k)).run (paddedDigits k n ++ rest) = .ok (n, rest) := by
  refine run_number hsmall ?_
  have htake : (paddedDigits k n ++ rest).take k = paddedDigits k n := take_left' (length_paddedDigits hk hlt)
  have htakeWhile : (paddedDigits k n ++ []).takeWhile Char.isDigit = paddedDigits k n :=
    takeWhile_paddedDigits k n (by simp [Stops])
  rw [append_nil] at htakeWhile
  rw [Option.elim_some, htake, htakeWhile]

theorem run_blanks_paddedDigits (k n : Nat) (rest : List Char) :
    blanks.run (paddedDigits k n ++ rest) = .ok ((), paddedDigits k n ++ rest) := by
  simp only [blanks, StateT.run_modify, trimStart_paddedDigits]
  rfl

theorem run_field {low high n : Nat} (hn : low ≤ n ∧ n ≤ high) (hhigh : high < 100) (rest : List Char) :
    (field low high).run (paddedDigits 2 n ++ rest) = .ok (n, rest) := by
  have hlt : n < Nat.pow 10 2 := Nat.lt_of_le_of_lt hn.2 hhigh
  simp only [field, StateT.run_bind, run_blanks_paddedDigits, ok_bind,
    run_number_full (by decide) hlt (Nat.lt_trans hlt (by decide)), if_pos hn]
  rfl

/-! ## Dates -/

/-- **A year is read back**, with its sign outside 0 to 9999. -/
theorem run_year {y : Int} (hy : -2147483648 ≤ y ∧ y ≤ 2147483647) {rest : List Char} (hrest : Stops rest) :
    year.run (Date.yearText y ++ rest) = .ok (y, rest) := by
  have hsmall : y.natAbs < Nat.pow 2 63 := Nat.lt_of_lt_of_le (show y.natAbs < 4294967296 by omega) (by decide)
  unfold Date.yearText
  split
  · next hplain =>
    have hlt : y.natAbs < Nat.pow 10 4 := show y.natAbs < 10000 by omega
    have hnumber := run_number_full (by decide) hlt hsmall rest
    have hvalue : ((y.natAbs : Nat) : Int) = y := by omega
    obtain ⟨c, cs, hcs, hc⟩ := paddedDigits_eq_cons 4 y.natAbs
    simp only [year, StateT.run_bind, run_blanks_paddedDigits, ok_bind, StateT.run_get, pure_bind]
    rw [hcs] at hnumber ⊢
    rw [cons_append] at hnumber ⊢
    -- A digit is no sign.
    split
    · next heq => cases heq; cases hc
    · next heq => cases heq; cases hc
    · simp only [StateT.run_bind, hnumber, ok_bind, hvalue, if_pos hy]
      rfl
  · next hsigned =>
    have hnumber : (number none).run (paddedDigits 4 y.natAbs ++ rest) = .ok (y.natAbs, rest) :=
      run_number hsmall (takeWhile_paddedDigits 4 y.natAbs hrest)
    by_cases hneg : y < 0
    · have hvalue : -((y.natAbs : Nat) : Int) = y := by omega
      have hblanks : blanks.run ('-' :: (paddedDigits 4 y.natAbs ++ rest)) =
          .ok ((), '-' :: (paddedDigits 4 y.natAbs ++ rest)) := rfl
      rw [if_pos hneg, cons_append]
      simp only [year, StateT.run_bind, hblanks, ok_bind, StateT.run_get, pure_bind, StateT.run_set, hnumber, hvalue,
        if_pos hy]
      rfl
    · have hvalue : ((y.natAbs : Nat) : Int) = y := by omega
      have hblanks : blanks.run ('+' :: (paddedDigits 4 y.natAbs ++ rest)) =
          .ok ((), '+' :: (paddedDigits 4 y.natAbs ++ rest)) := rfl
      rw [if_neg hneg, cons_append]
      simp only [year, StateT.run_bind, hblanks, ok_bind, StateT.run_get, pure_bind, StateT.run_set, hnumber, hvalue,
        if_pos hy]
      rfl

theorem daysInMonth_le (y : Int) (m : Nat) : daysInMonth y m ≤ 31 := by
  unfold daysInMonth
  split
  · split <;> omega
  split <;> omega

/-- A date is read back up to the calendar. -/
theorem run_dateParts (d : Date) (rest : List Char) :
    dateParts.run (d.text ++ rest) = .ok (⟨d.year, d.month, d.day⟩, rest) := by
  obtain ⟨y, m, day, hlow, hhigh, hm, hm', hd, hd'⟩ := d
  have hyear (rest : List Char) : year.run (Date.yearText y ++ '-' :: rest) = .ok (y, '-' :: rest) :=
    run_year (by omega) (by simp [Stops])
  have hmonth := run_field ⟨hm, hm'⟩ (by decide)
  have hday := run_field ⟨hd, Nat.le_trans hd' (daysInMonth_le y m)⟩ (by decide)
  simp only [dateParts, Date.text, append_assoc, cons_append, StateT.run_bind, hyear, hmonth, hday, run_literal, ok_bind]
  rfl

/-! ## Times -/

/-- The digits of a fraction are as many as it has places. -/
theorem run_fraction_digits {k m : Nat} (hk : 0 < k ∧ k ≤ 9) (hm : m < Nat.pow 10 k) {rest : List Char}
    (hrest : Stops rest) : fraction.run ('.' :: paddedDigits k m ++ rest) = .ok (m * Nat.pow 10 (9 - k), rest) := by
  have hlength := length_paddedDigits hk.1 hm
  have hfound : ((paddedDigits k m ++ rest).take 9).takeWhile Char.isDigit = paddedDigits k m := by
    rw [take_append, take_of_length_le (by omega)]
    refine takeWhile_paddedDigits k m fun c hc => ?_
    rw [head?_take] at hc
    split at hc
    · cases hc
    · exact hrest c hc
  have hsmall : m < Nat.pow 2 63 :=
    Nat.lt_trans (Nat.lt_of_lt_of_le hm (Nat.pow_le_pow_right (by decide) hk.2)) (by decide)
  have hnumber : (number (some 9)).run (paddedDigits k m ++ rest) = .ok (m, rest) := run_number hsmall hfound
  have hdrop : rest.dropWhile Char.isDigit = rest := by
    cases rest with
    | nil => rfl
    | cons c rest => rw [dropWhile_cons, hrest c rfl]; rfl
  simp only [fraction, cons_append, StateT.run_bind, StateT.run_get, pure_bind, StateT.run_set,
    hnumber, ok_bind, StateT.run_modify, hdrop, hfound, hlength]
  rfl

/-- **A fraction of a second is read back**, whatever the number of its digits. -/
theorem run_fraction {n : Nat} (hn : n < 1000000000) {rest : List Char} (hrest : Stops rest)
    (hpoint : rest.head? ≠ some '.') : fraction.run (Clock.fractionText n ++ rest) = .ok (n, rest) := by
  unfold Clock.fractionText
  split
  · next hzero =>
    subst hzero
    simp only [nil_append, fraction, StateT.run_bind, StateT.run_get, pure_bind]
    split
    · next heq => exact absurd rfl hpoint
    · rfl
  split
  · next hthree =>
    rw [run_fraction_digits (by decide) (show n / 1000000 < 1000 by omega) hrest]
    exact congrArg (fun k => Except.ok (k, rest)) (show n / 1000000 * 1000000 = n by omega)
  split
  · next hsix =>
    rw [run_fraction_digits (by decide) (show n / 1000 < 1000000 by omega) hrest]
    exact congrArg (fun k => Except.ok (k, rest)) (show n / 1000 * 1000 = n by omega)
  · rw [run_fraction_digits (by decide) hn hrest]
    exact congrArg (fun k => Except.ok (k, rest)) (Nat.mul_one n)

/-- The parts of a time as it is printed: a leap second has the next number. -/
def printedParts (t : Clock) : ClockParts :=
  ⟨t.hour, t.minute, t.second + t.nano / 1000000000, t.nano % 1000000000⟩

/-- A time is read back up to its leap second. -/
theorem run_clockParts (t : Clock) (rest : List Char) (hrest : Stops rest) (hpoint : rest.head? ≠ some '.') :
    clockParts.run (t.text ++ rest) = .ok (printedParts t, rest) := by
  obtain ⟨h, m, s, n, hh, hm, hs, hn⟩ := t
  have hhour := run_field (show 0 ≤ h ∧ h ≤ 23 by omega) (by decide)
  have hminute := run_field (show 0 ≤ m ∧ m ≤ 59 by omega) (by decide)
  have hsecond := run_field (show 0 ≤ s + n / 1000000000 ∧ s + n / 1000000000 ≤ 60 by omega) (by decide)
  have hnano := run_fraction (Nat.mod_lt n (show 0 < 1000000000 by decide)) hrest hpoint
  simp only [clockParts, Clock.text, append_assoc, cons_append, StateT.run_bind, hhour, hminute, hsecond, hnano,
    run_literal, ok_bind]
  rfl

/-- The printed parts of a time name the time that is read back. -/
theorem clock_printedParts (t : Clock) : (printedParts t).clock = .ok t.readBack := by
  obtain ⟨h, m, s, n, hc⟩ := t
  obtain ⟨_, _, hs, hn⟩ := id hc
  by_cases hn' : n < 1000000000
  · have hparts : printedParts ⟨h, m, s, n, hc⟩ = ⟨h, m, s, n⟩ := by
      rw [printedParts, Nat.div_eq_of_lt hn', Nat.mod_eq_of_lt hn', Nat.add_zero]
    have hproper : Clock.Proper ⟨h, m, s, n, hc⟩ := fun hleap => absurd hn' (Nat.not_lt.mpr hleap)
    rw [hparts, ClockParts.clock, Clock.readBack_of_proper hproper]
    simp only [if_neg (Nat.not_le.mpr hn'), if_neg (show s ≠ 60 by omega), Clock.of?_self ⟨h, m, s, n, hc⟩]
  -- The text shows the number of the next second.
  have hparts : printedParts ⟨h, m, s, n, hc⟩ = ⟨h, m, s + 1, n - 1000000000⟩ := by
    rw [printedParts, show n / 1000000000 = 1 by omega, show n % 1000000000 = n - 1000000000 by omega]
  have hfraction : ¬ 1000000000 ≤ n - 1000000000 := by omega
  rw [hparts, ClockParts.clock]
  simp only [if_neg hfraction]
  by_cases hs59 : s = 59
  · subst hs59
    rw [Clock.readBack_of_proper fun _ => rfl]
    simp only [if_true, show n - 1000000000 + 1000000000 = n by omega, Clock.of?_self ⟨h, m, 59, n, hc⟩]
  · have hleap : 1000000000 ≤ n ∧ s ≠ 59 := ⟨Nat.not_lt.mp hn', hs59⟩
    have hnext : Clock.of? h m (s + 1) (n - 1000000000) = some (Clock.readBack ⟨h, m, s, n, hc⟩) := by
      rw [Clock.readBack, dif_pos hleap]
      exact Clock.of?_self ⟨h, m, s + 1, n - 1000000000, _⟩
    simp only [if_neg (show s + 1 ≠ 60 by omega), hnext]

/-! ## Texts -/

/-- **A date is read back.** -/
theorem readDate_text (d : Date) : readDate d.text = .ok d := by
  have hrun := run_dateParts d []
  rw [append_nil] at hrun
  rw [readDate, atEnd_eq_ok.mpr hrun, ok_bind, DateParts.date, Date.of?_self]

/-- **A time is read back**, if it is proper. -/
theorem readClock_text (t : Clock) : readClock t.text = .ok t.readBack := by
  have hrun := run_clockParts t [] (by simp [Stops]) (by simp)
  rw [append_nil] at hrun
  rw [readClock, atEnd_eq_ok.mpr hrun, ok_bind, clock_printedParts]

/-- The parts of a moment are read with any blanks between the date and the time. -/
theorem run_momentParts (t : Moment) (rest : List Char) (hrest : Stops rest) (hpoint : rest.head? ≠ some '.') :
    (momentParts blanks).run (t.text ++ rest) =
      .ok ((⟨t.date.year, t.date.month, t.date.day⟩, printedParts t.time), rest) := by
  have hblanks : blanks.run (' ' :: (t.time.text ++ rest)) = .ok ((), t.time.text ++ rest) := by
    have htrim : Text.trimStart (' ' :: (t.time.text ++ rest)) = t.time.text ++ rest := by
      rw [Clock.text, append_assoc, append_assoc, append_assoc]
      exact trimStart_paddedDigits 2 t.time.hour _
    simp only [blanks, StateT.run_modify, htrim]
    rfl
  simp only [momentParts, Moment.text, Moment.textWith, append_assoc, cons_append, StateT.run_bind, run_dateParts, hblanks,
    run_clockParts t.time rest hrest hpoint, ok_bind]
  rfl

/-- The parts of a moment name the moment that is read back. -/
theorem moment_printedParts (t : Moment) :
    moment ⟨t.date.year, t.date.month, t.date.day⟩ (printedParts t.time) = .ok t.readBack := by
  rw [moment, DateParts.date, Date.of?_self, ok_bind, clock_printedParts]
  rfl

/-- **A moment is read back**, if its time is proper. -/
theorem readMoment_text (t : Moment) : readMoment t.text = .ok t.readBack := by
  have hrun := run_momentParts t [] (by simp [Stops]) (by simp)
  rw [append_nil] at hrun
  rw [readMoment, readMomentWith, atEnd_eq_ok.mpr hrun, ok_bind]
  exact moment_printedParts t

/-- **A moment in universal time is read back** with its zone, if its time is proper. -/
theorem readZoned_text (t : Moment) : readZoned (t.text ++ ['+', '0', '0']) = .ok t.readBack := by
  have hrun := run_momentParts t ['+', '0', '0'] (by simp [Stops]) (by simp)
  have hzone : zone.run ['+', '0', '0'] = .ok (0, []) := rfl
  have hparts : zonedParts.run (t.text ++ ['+', '0', '0']) =
      .ok ((⟨t.date.year, t.date.month, t.date.day⟩, printedParts t.time, 0), []) := by
    simp only [zonedParts, StateT.run_bind, hrun, hzone, ok_bind]
    rfl
  rw [readZoned, atEnd_eq_ok.mpr hparts, ok_bind]
  simp only [moment_printedParts, ok_bind, toUniversal, Moment.minus?_zero]
  rfl

/-! ## What is read -/

/-- A reading that goes on and succeeds has succeeded before. -/
theorem exists_of_bind {α β : Type} {x : Except ReadError α} {f : α → Except ReadError β} {b : β}
    (h : (x >>= f) = .ok b) : ∃ a, x = .ok a ∧ f a = .ok b := by
  cases x with
  | error e => cases h
  | ok a => exact ⟨a, rfl, h⟩

/-- Parts name proper times only. -/
theorem proper_clock {p : ClockParts} {t : Clock} (h : p.clock = .ok t) : t.Proper := by
  unfold ClockParts.clock at h
  by_cases hfraction : 1000000000 ≤ p.nano
  · simp only [if_pos hfraction] at h
    cases h
  simp only [if_neg hfraction] at h
  by_cases hleap : p.second = 60
  · simp only [if_pos hleap] at h
    cases hparts : Clock.of? p.hour p.minute 59 (p.nano + 1000000000) with
    | none => rw [hparts] at h; cases h
    | some c =>
      rw [hparts] at h
      cases h
      exact fun _ => (Clock.eq_of_of? hparts).1
  · simp only [if_neg hleap] at h
    cases hparts : Clock.of? p.hour p.minute p.second p.nano with
    | none => rw [hparts] at h; cases h
    | some c =>
      rw [hparts] at h
      cases h
      exact fun hnano => absurd ((Clock.eq_of_of? hparts).2 ▸ hnano) hfraction

theorem proper_moment {d : DateParts} {c : ClockParts} {t : Moment} (h : moment d c = .ok t) : t.time.Proper := by
  obtain ⟨date, _, h⟩ := exists_of_bind h
  obtain ⟨time, htime, h⟩ := exists_of_bind h
  cases h
  exact proper_clock htime

theorem proper_toUniversal {t u : Moment} {ahead : Int} (h : toUniversal t ahead = .ok u) (ht : t.time.Proper) :
    u.time.Proper := by
  unfold toUniversal at h
  split at h
  · cases h
  · split at h
    · next hminus =>
      cases h
      exact Moment.proper_of_minus? hminus ht
    · cases h

/-- **Times that are read are proper.** -/
theorem proper_readClock {cs : List Char} {t : Clock} (h : readClock cs = .ok t) : t.Proper := by
  obtain ⟨_, _, h⟩ := exists_of_bind h
  exact proper_clock h

/-- **Moments that are read have proper times.** -/
theorem proper_readMomentWith {separator : Reader Unit} {cs : List Char} {t : Moment}
    (h : readMomentWith separator cs = .ok t) : t.time.Proper := by
  obtain ⟨_, _, h⟩ := exists_of_bind h
  exact proper_moment h

/-- **Moments that are read with a zone have proper times.** -/
theorem proper_readZoned {cs : List Char} {t : Moment} (h : readZoned cs = .ok t) : t.time.Proper := by
  obtain ⟨_, _, h⟩ := exists_of_bind h
  obtain ⟨_, hmoment, h⟩ := exists_of_bind h
  exact proper_toUniversal h (proper_moment hmoment)

/-- **Moments in the form of internet protocols have proper times.** -/
theorem proper_readInternetTime {cs : List Char} {t : Moment} (h : readInternetTime cs = .ok t) : t.time.Proper := by
  obtain ⟨_, _, h⟩ := exists_of_bind h
  obtain ⟨_, hmoment, h⟩ := exists_of_bind h
  exact proper_toUniversal h (proper_moment hmoment)

end Calendar

end BulkLoad
