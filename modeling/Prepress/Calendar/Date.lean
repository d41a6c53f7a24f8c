/-
# Dates

The Gregorian calendar, carried back to the year 1 and ending with the year 9999.  Days are
numbered from 0, the first of January of the year 1.  Main statement: `dayNumber_ofDayNumber`,
every day number of the calendar is the number of its date.
-/
import Prepress.Number.Total

namespace Prepress

/-! ## Months and years -/

/-- Leap years are the multiples of four, except the centuries that no four divides. -/
def isLeap (year : Nat) : Bool := year % 4 == 0 && (year % 100 != 0 || year % 400 == 0)

/-- The lengths of the twelve months. -/
def monthLengths (year : Nat) : List Nat :=
  [31, if isLeap year then 29 else 28, 31, 30, 31, 30, 31, 31, 30, 31, 30, 31]

/-- The length of a month, which is numbered from 1. -/
def daysInMonth (year month : Nat) : Nat := (monthLengths year).getD (month - 1) 0

/-- The days of a year before a month. -/
def daysBeforeMonth (year month : Nat) : Nat := total ((monthLengths year).take (month - 1))

/-- The days of the calendar before a year. -/
def daysBeforeYear (year : Nat) : Nat :=
  365 * (year - 1) + (year - 1) / 4 - (year - 1) / 100 + (year - 1) / 400

/-- The number of days of the calendar. -/
def dayCount : Nat := 3652059

theorem total_monthLengths (year : Nat) :
    total (monthLengths year) = if isLeap year then 366 else 365 := by
  unfold monthLengths
  split <;> simp

theorem quotient_succ (p n : Nat) :
    (p + 1) / n = p / n + if (p + 1) % n = 0 then 1 else 0 := by
  rw [Nat.succ_div]
  simp only [Nat.dvd_iff_mod_eq_zero]

theorem daysBeforeYear_succ {year : Nat} (h : 1 ≤ year) :
    daysBeforeYear (year + 1) = daysBeforeYear year + total (monthLengths year) := by
  obtain ⟨p, rfl⟩ : ∃ p, year = p + 1 := ⟨year - 1, by omega⟩
  rw [total_monthLengths]
  simp only [daysBeforeYear, Nat.add_sub_cancel]
  rw [quotient_succ p 4, quotient_succ p 100, quotient_succ p 400]
  have h1 : p / 100 ≤ p / 4 := by omega
  have h2 : (p + 1) % 400 = 0 → (p + 1) % 100 = 0 := by omega
  have h3 : (p + 1) % 100 = 0 → (p + 1) % 4 = 0 := by omega
  by_cases a : (p + 1) % 4 = 0 <;> by_cases b : (p + 1) % 100 = 0 <;>
    by_cases c : (p + 1) % 400 = 0 <;> simp [isLeap, a, b, c] <;> simp_all <;> omega

/-! ## From a day number to a date -/

/-- The year that a day lies in: the mean length of a year gives it but for one. -/
def yearOfDay (day : Nat) : Nat :=
  let guess := day * 400 / 146097 + 1
  if day < daysBeforeYear guess then guess - 1
  else if daysBeforeYear (guess + 1) ≤ day then guess + 1
  else guess

theorem daysBeforeYear_yearOfDay (day : Nat) : daysBeforeYear (yearOfDay day) ≤ day := by
  unfold yearOfDay
  dsimp only
  generalize hg : day * 400 / 146097 = g
  split
  · simp only [daysBeforeYear] at *; omega
  · split
    · simpa using ‹_›
    · omega

theorem lt_daysBeforeYear_yearOfDay (day : Nat) : day < daysBeforeYear (yearOfDay day + 1) := by
  unfold yearOfDay
  dsimp only
  generalize hg : day * 400 / 146097 = g
  split
  · simp only [daysBeforeYear] at *; omega
  · split
    · simp only [daysBeforeYear] at *; omega
    · omega

theorem yearOfDay_pos (day : Nat) : 1 ≤ yearOfDay day := by
  have h := lt_daysBeforeYear_yearOfDay day
  generalize yearOfDay day = y at h
  cases y with
  | zero => simp [daysBeforeYear] at h
  | succ y => omega

theorem yearOfDay_le {day : Nat} (h : day < dayCount) : yearOfDay day ≤ 9999 := by
  have h1 := daysBeforeYear_yearOfDay day
  generalize yearOfDay day = y at h1
  simp only [daysBeforeYear, dayCount] at *
  omega

/-- The place of a day in its year, from 0. -/
def dayInYear (day : Nat) : Nat := day - daysBeforeYear (yearOfDay day)

theorem dayInYear_lt (day : Nat) : dayInYear day < total (monthLengths (yearOfDay day)) := by
  have h1 := lt_daysBeforeYear_yearOfDay day
  have h2 := daysBeforeYear_yearOfDay day
  rw [daysBeforeYear_succ (yearOfDay_pos day)] at h1
  simp only [dayInYear]
  omega

/-- The number of whole periods before a day, and the day's place in the period it lies in. -/
def locate : (lengths : List Nat) → (day : Nat) → Nat × Nat
  | [], day => (0, day)
  | n :: ns, day =>
    if day < n then (0, day)
    else
      let (k, r) := locate ns (day - n)
      (k + 1, r)

theorem locate_spec {lengths : List Nat} {day : Nat} (h : day < total lengths) :
    (locate lengths day).1 < lengths.length ∧
      (locate lengths day).2 < lengths.getD (locate lengths day).1 0 ∧
      total (lengths.take (locate lengths day).1) + (locate lengths day).2 = day := by
  induction lengths generalizing day with
  | nil => simp at h
  | cons n ns ih =>
    simp only [locate]
    split
    · next hn => simpa using hn
    · next hn =>
      have hs : day - n < total ns := by simp only [total_cons] at h; omega
      obtain ⟨h1, h2, h3⟩ := ih hs
      refine ⟨?_, ?_, ?_⟩
      · simpa using h1
      · simpa using h2
      · simp only [List.take_succ_cons, total_cons]; omega

/-! ## Dates -/

/-- A day of the calendar. -/
structure Date where
  year : Nat
  month : Nat
  day : Nat
  year_pos : 1 ≤ year
  year_le : year ≤ 9999
  month_pos : 1 ≤ month
  month_le : month ≤ 12
  day_pos : 1 ≤ day
  day_le : day ≤ daysInMonth year month
deriving DecidableEq

namespace Date

/-- The date with the given year, month and day, if the calendar has it. -/
def of? (year month day : Nat) : Option Date :=
  if h : (1 ≤ year ∧ year ≤ 9999) ∧ (1 ≤ month ∧ month ≤ 12) ∧
      1 ≤ day ∧ day ≤ daysInMonth year month then
    some ⟨year, month, day, h.1.1, h.1.2, h.2.1.1, h.2.1.2, h.2.2.1, h.2.2.2⟩
  else none

theorem of?_self (d : Date) : of? d.year d.month d.day = some d := by
  have h : (1 ≤ d.year ∧ d.year ≤ 9999) ∧ (1 ≤ d.month ∧ d.month ≤ 12) ∧
      1 ≤ d.day ∧ d.day ≤ daysInMonth d.year d.month :=
    ⟨⟨d.year_pos, d.year_le⟩, ⟨d.month_pos, d.month_le⟩, d.day_pos, d.day_le⟩
  rw [of?, dif_pos h]

/-- The place of the date in its year, from 0. -/
def dayOfYear (d : Date) : Nat := daysBeforeMonth d.year d.month + (d.day - 1)

/-- The number of the date. -/
def dayNumber (d : Date) : Nat := daysBeforeYear d.year + d.dayOfYear

/-- The days since the last Monday. -/
def weekday (d : Date) : Nat := d.dayNumber % 7

/-- The date with a given number. -/
def ofDayNumber (n : Nat) (h : n < dayCount) : Date where
  year := yearOfDay n
  month := (locate (monthLengths (yearOfDay n)) (dayInYear n)).1 + 1
  day := (locate (monthLengths (yearOfDay n)) (dayInYear n)).2 + 1
  year_pos := yearOfDay_pos n
  year_le := yearOfDay_le h
  month_pos := Nat.le_add_left 1 _
  month_le := (locate_spec (dayInYear_lt n)).1
  day_pos := Nat.le_add_left 1 _
  day_le := (locate_spec (dayInYear_lt n)).2.1

/-- Every day number of the calendar is the number of its date. -/
theorem dayNumber_ofDayNumber (n : Nat) (h : n < dayCount) : (ofDayNumber n h).dayNumber = n := by
  have h1 := (locate_spec (dayInYear_lt n)).2.2
  have h2 := daysBeforeYear_yearOfDay n
  simp only [dayNumber, dayOfYear, ofDayNumber, daysBeforeMonth, Nat.add_sub_cancel]
  simp only [dayInYear] at *
  omega

theorem dayOfYear_lt (d : Date) : d.dayOfYear < total (monthLengths d.year) := by
  have hm := d.month_pos
  have hl := d.month_le
  have hd := d.day_le
  have hp := d.day_pos
  have key : ∀ (ns : List Nat) (m : Nat), m < ns.length →
      total (ns.take m) + ns.getD m 0 ≤ total ns := by
    intro ns
    induction ns with
    | nil => intro m h; simp at h
    | cons n ns ih =>
      intro m h
      cases m with
      | zero => simp
      | succ m =>
        have := ih m (by simpa using h)
        simp only [List.take_succ_cons, total_cons, List.getD_cons_succ]
        omega
  have := key (monthLengths d.year) (d.month - 1) (by simp [monthLengths]; omega)
  simp only [dayOfYear, daysBeforeMonth]
  simp only [daysInMonth] at hd
  omega

theorem dayNumber_lt (d : Date) : d.dayNumber < dayCount := by
  have h1 := d.dayOfYear_lt
  have h2 := daysBeforeYear_succ d.year_pos
  have h3 := d.year_le
  have h4 : daysBeforeYear (d.year + 1) ≤ dayCount := by
    simp only [daysBeforeYear, dayCount]; omega
  simp only [dayNumber]
  omega

/-! ## Weeks -/

/-- The number of the Monday that begins the first week of a year: the week with its first
Thursday. -/
def firstMonday (year : Nat) : Nat :=
  let start := daysBeforeYear year
  if start % 7 ≤ 3 then start - start % 7 else start + 7 - start % 7

/-- Whether a year has fifty-three weeks: it begins on a Thursday, or, being a leap year, on
a Wednesday. -/
def hasLongYear (year : Nat) : Bool :=
  let start := daysBeforeYear year % 7
  start == 3 || (start == 2 && isLeap year)

/-- The year and the number of the week that a date belongs to. -/
def isoWeek (d : Date) : Nat × Nat :=
  if d.dayNumber < firstMonday d.year then
    (d.year - 1, if hasLongYear (d.year - 1) then 53 else 52)
  else
    let week := (d.dayNumber - firstMonday d.year) / 7 + 1
    if week = 53 ∧ !hasLongYear d.year then (d.year + 1, 1) else (d.year, week)

/-- The date of a day of a week, both numbered from 1. -/
def ofWeek? (year week day : Nat) : Option Date :=
  if 1 ≤ year ∧ 1 ≤ week ∧ (week ≤ 52 ∨ week = 53 ∧ hasLongYear year) ∧ 1 ≤ day ∧ day ≤ 7 then
    let n := firstMonday year + 7 * (week - 1) + (day - 1)
    if h : n < dayCount then some (ofDayNumber n h) else none
  else none


end Date

end Prepress
