/-
# Reading a date

A text is read as a date of digits, else in the international form, else in one of the general
forms.  Blanks around it do not count.
-/
import Prepress.Calendar.Form
import Prepress.Calendar.Iso

namespace Prepress.Calendar

/-- The date of a trimmed text that has one of the shapes of digits. -/
def numericDate? (t : Text) : Option Date :=
  Shape.numeric.findSome? fun (shape, form) => if shape.fits t then form.read? t else none

/-- The date of a trimmed text in one of the general forms. -/
def generalDate? (t : Text) : Option Date :=
  Form.general.findSome? fun form => form.read? t

/-- The moment that a text names: the beginning of a day, or a time of day where the
international form gives one. -/
def instant? (t : Text) : Option Instant :=
  let t := t.trim
  ((numericDate? t).map Instant.midnight).or
    ((Iso.instant? t).or ((generalDate? t).map Instant.midnight))

end Prepress.Calendar
