/-
# Exact arithmetic

In rational numbers nothing is rounded: an integer is itself (`ofInt_rat`), every integer is in
reach (`ofInt?_rat`), the greater of two numbers is their maximum (`greater_rat`), and a span of time
is its microseconds, in days (`daysSince_rat`).  A number of days is rounded once, to whole
microseconds, so it is off by at most a half of one (`abs_micros_sub_le`).
-/
import Mathlib.Data.Rat.Cast.Order
import Mathlib.Tactic.NormNum
import Mathlib.Tactic.Ring
import Prepress.Calendar.Span
import Prepress.Proofs.Number.Rounding

namespace Prepress

namespace Measure

theorem ofInt_rat (n : Int) : (ofInt n : Rat) = n := by
  show mkRat n 1 = n
  rw [Rat.mkRat_one]

theorem ofInt?_rat (n : Int) : (ofInt? n : Option Rat) = some (n : Rat) := by
  show some (ofInt n : Rat) = some (n : Rat)
  rw [ofInt_rat]

theorem greater_rat (a b : Rat) : greater a b = max a b := by
  have hlt : lt a b = decide (a < b) := rfl
  unfold greater
  by_cases h : a < b
  · rw [hlt, if_pos (decide_eq_true h), max_eq_right h.le]
  · rw [hlt, if_neg (by simp [h]), max_eq_left (not_lt.1 h)]

end Measure

theorem dayMicros_pos : (0 : Rat) < dayMicros := by
  norm_num [dayMicros]

/-- The microseconds of a number of days are off by at most a half of one. -/
theorem abs_micros_sub_le {days : Rat} {micros : Int} (h : microsOfDays? days = some micros) :
    |(micros : Rat) - days * dayMicros| ≤ 1 / 2 := by
  let whole := days.num.tdiv days.den
  let left : Rat := Measure.ofInt dayMicros * (days - Measure.ofInt whole)
  have hmicros : micros = whole * dayMicros + roundHalfEven left := (Option.some.inj h).symm
  have hleft : left = (days - whole) * dayMicros := by
    show (Measure.ofInt dayMicros : Rat) * (days - Measure.ofInt whole) = _
    rw [Measure.ofInt_rat, Measure.ofInt_rat, Int.cast_natCast]
    ring
  -- the whole days are exact, so what is rounded is what is left of them
  have herror : (micros : Rat) - days * dayMicros = roundHalfEven left - left := by
    rw [hmicros, hleft]
    push_cast
    ring
  rw [herror]
  exact abs_roundHalfEven_sub_le left

namespace Instant

theorem daysSince_rat (later earlier : Instant) :
    (later.daysSince earlier : Rat) = (later.since earlier : Rat) / dayMicros := by
  have hday : ((1000000 : Nat) : Rat) * ((86400 : Int) : Rat) = (dayMicros : Rat) := by
    norm_num [dayMicros]
  show mkRat (later.since earlier) 1000000 / (Measure.ofInt 86400 : Rat) = _
  rw [Measure.ofInt_rat, Rat.mkRat_eq_div, ← hday]
  exact div_div _ _ _

/-- A later moment is at least as many days after another one, and an earlier one at most as many
before it. -/
theorem daysSince_le_daysSince {a b c d : Instant} (hac : a.micros ≤ c.micros)
    (hdb : d.micros ≤ b.micros) : (a.daysSince b : Rat) ≤ c.daysSince d := by
  have hsince : a.since b ≤ c.since d := by
    unfold since
    omega
  rw [daysSince_rat, daysSince_rat]
  apply div_le_div_of_nonneg_right
  · exact_mod_cast hsince
  · exact Nat.cast_nonneg dayMicros

end Instant

end Prepress
