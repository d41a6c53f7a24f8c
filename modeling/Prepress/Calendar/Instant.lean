/-
# Instants

A moment of the calendar, to the microsecond.  It is kept as the number of microseconds since
the calendar began, so that spans of time are differences.
-/
import Prepress.Calendar.Date

namespace Prepress

/-- The microseconds of a day. -/
def dayMicros : Nat := 86400000000

/-- A time of day. -/
structure Clock where
  hour : Nat
  minute : Nat
  second : Nat
  micro : Nat
  hour_lt : hour < 24
  minute_lt : minute < 60
  second_lt : second < 60
  micro_lt : micro < 1000000
deriving DecidableEq

namespace Clock

/-- The time of day with the given parts, if there is one. -/
def of? (hour minute second micro : Nat) : Option Clock :=
  if h : (hour < 24 ∧ minute < 60) ∧ second < 60 ∧ micro < 1000000 then
    some ⟨hour, minute, second, micro, h.1.1, h.1.2, h.2.1, h.2.2⟩
  else none

/-- The beginning of the day. -/
def midnight : Clock := ⟨0, 0, 0, 0, by omega, by omega, by omega, by omega⟩

/-- The microseconds since the beginning of the day. -/
def micros (c : Clock) : Nat := ((c.hour * 60 + c.minute) * 60 + c.second) * 1000000 + c.micro

theorem micros_lt (c : Clock) : c.micros < dayMicros := by
  have := c.hour_lt
  have := c.minute_lt
  have := c.second_lt
  have := c.micro_lt
  simp only [micros, dayMicros]
  omega

end Clock

/-- A moment of the calendar, in microseconds since it began. -/
structure Instant where
  micros : Nat
  micros_lt : micros < dayCount * dayMicros
deriving DecidableEq

namespace Instant

/-- The moment of a date and a time of day. -/
def ofDate (d : Date) (c : Clock) : Instant where
  micros := d.dayNumber * dayMicros + c.micros
  micros_lt := by
    have h1 := d.dayNumber_lt
    have h2 := c.micros_lt
    have h3 : (d.dayNumber + 1) * dayMicros ≤ dayCount * dayMicros := Nat.mul_le_mul_right _ h1
    rw [Nat.succ_mul] at h3
    omega

/-- The first moment of a date. -/
def midnight (d : Date) : Instant := ofDate d Clock.midnight

/-- The number of the day that the moment lies in. -/
def dayNumber (i : Instant) : Nat := i.micros / dayMicros

theorem dayNumber_lt (i : Instant) : i.dayNumber < dayCount :=
  Nat.div_lt_of_lt_mul (by rw [Nat.mul_comm]; exact i.micros_lt)

/-- The date of the moment. -/
def date (i : Instant) : Date := Date.ofDayNumber i.dayNumber i.dayNumber_lt

/-- The time of day of the moment. -/
def clock (i : Instant) : Clock :=
  let t := i.micros % dayMicros
  have ht : t < dayMicros := Nat.mod_lt _ (by decide)
  { hour := t / 3600000000
    minute := t / 60000000 % 60
    second := t / 1000000 % 60
    micro := t % 1000000
    hour_lt := by simp only [dayMicros] at ht; omega
    minute_lt := by omega
    second_lt := by omega
    micro_lt := by omega }

/-- The number of microseconds from one moment to another. -/
def since (later earlier : Instant) : Int := (later.micros : Int) - earlier.micros

/-- The moment a number of microseconds later, if the calendar reaches it. -/
def shift? (i : Instant) (micros : Int) : Option Instant :=
  let moved := (i.micros : Int) + micros
  if h : 0 ≤ moved ∧ moved < (dayCount * dayMicros : Nat) then
    some ⟨moved.toNat, by omega⟩
  else none

/-- The earlier of two moments, the first if they are one. -/
def earlier (a b : Instant) : Instant := if b.micros < a.micros then b else a

/-- The later of two moments, the first if they are one. -/
def later (a b : Instant) : Instant := if a.micros < b.micros then b else a

end Instant

end Prepress
