/-
# Amounts

How numbers are written: with a fixed number of decimal places, or with at most three places
and no trailing zeros.  A number is rounded to its last place, and a tie goes to the even
digit.
-/
import Prepress.Number.Measure
import Prepress.Text.Numeral

namespace Prepress.Amount

open Text

/-! ## Fixed places -/

/-- A whole number of units of the last place, written with that many decimal places. -/
def ofUnits (places units : Nat) : Text :=
  let digits := zeroPadded (places + 1) units
  let whole := digits.take (digits.length - places)
  let fraction := digits.drop (digits.length - places)
  whole ++ (if places = 0 then [] else '.' :: fraction)

/-- A rational number with a fixed number of decimal places.  A negative number keeps its sign
even when it is rounded to zero. -/
def fixed (places : Nat) (q : Rat) : Text :=
  (if q < 0 then ['-'] else [])
    ++ ofUnits places (roundHalfEven (q * (Nat.pow 10 places : Rat))).natAbs

/-! ## At most three places -/

/-- A text without the run of a character at its end. -/
def dropFinal (c : Char) : Text → Text
  | [] => []
  | d :: t =>
    match dropFinal c t with
    | [] => if d = c then [] else [d]
    | kept => d :: kept

/-- A numeral without zeros at its end and then without a bare point; a zero has no sign. -/
def shortened (t : Text) : Text :=
  let kept := dropFinal '.' (dropFinal '0' t)
  if kept = [] ∨ kept = ['-', '0'] then ['0'] else kept

/-- A rational number, rounded to three places. -/
def ofRat (q : Rat) : Text := shortened (fixed 3 q)

/-! ## Numbers of any kind -/

/-- The words for the values that are no rational number. -/
def ofNonRational (negative : Bool) (word : String) : Text :=
  (if negative then ['-'] else []) ++ word.toList

/-- A value written by a rule for rational numbers. -/
def ofValue (rule : Rat → Text) : Value → Text
  | .exact q => rule q
  | .infinite negative => ofNonRational negative "inf"
  | .undefined => ofNonRational false "nan"

variable {α : Type} [Measure α]

/-- A number with at most three places. -/
def short (x : α) : Text := ofValue ofRat (Measure.value x)

/-- A number with two places. -/
def twoPlaces (x : α) : Text := ofValue (fixed 2) (Measure.value x)

end Prepress.Amount
