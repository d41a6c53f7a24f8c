/-
# Spans of days

A number of days as a number of microseconds.  The whole days are taken exactly, and what the
fraction of a day comes to is rounded to the nearest microsecond, a tie going to the even one.
-/
import Prepress.Calendar.Instant
import Prepress.Number.Measure

namespace Prepress

variable {α : Type} [Measure α]

/-- The microseconds that a number of days comes to, if it is a rational number. -/
def microsOfDays? (days : α) : Option Int :=
  match Measure.value days with
  | .exact q =>
    let whole := q.num.tdiv q.den
    let fraction := days - Measure.ofInt whole
    match Measure.value (Measure.ofInt dayMicros * fraction) with
    | .exact r => some (whole * dayMicros + roundHalfEven r)
    | _ => none
  | _ => none

/-- The moment so many days after another, if the calendar reaches it. -/
def Instant.plusDays? (i : Instant) (days : α) : Option Instant :=
  (microsOfDays? days).bind i.shift?

/-- The span from one moment to another, in days. -/
def Instant.daysSince (later earlier : Instant) : α :=
  Measure.decimal (later.since earlier) 6 / Measure.ofInt 86400

end Prepress
