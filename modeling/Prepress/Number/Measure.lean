/-
# Measures

Lengths, durations and positions are computed in one kind of number, either in doubles, as a
page is drawn, or in exact rational numbers, where the same rules can be reasoned about.  The
operations are written once, for every kind of number of this class.
-/
import Prepress.Number.Value
import Prepress.Number.Rounding

namespace Prepress

/-- A kind of number with the four operations, decimal fractions and a value. -/
class Measure (α : Type) extends Add α, Sub α, Mul α, Div α where
  /-- The number nearest to `n / 10 ^ places`. -/
  decimal (n : Int) (places : Nat) : α
  /-- What a number stands for. -/
  value : α → Value

/-- Doubles; a decimal fraction is rounded to the nearest one, a tie going to the even one. -/
instance : Measure Float where
  decimal
    | .ofNat n, places => Float.ofScientific n true places
    | .negSucc n, places => -Float.ofScientific (n + 1) true places
  value := Value.ofFloat

/-- Rational numbers; nothing is rounded. -/
instance : Measure Rat where
  decimal n places := mkRat n (Nat.pow 10 places)
  value := Value.exact

namespace Measure

variable {α : Type} [Measure α]

/-- The number nearest to an integer. -/
def ofInt (n : Int) : α := decimal n 0

/-- The number nearest to an integer, unless the integer is beyond every number. -/
def ofInt? (n : Int) : Option α :=
  let x : α := ofInt n
  match value x with
  | .exact _ => some x
  | _ => none

/-- Whether `a` is less than `b`. -/
def lt (a b : α) : Bool := (value a).lt (value b)

/-- Whether `a` is at most `b`. -/
def le (a b : α) : Bool := (value a).le (value b)

/-- The greater of two numbers, the first if neither is greater. -/
def greater (a b : α) : α := if lt a b then b else a

/-- The least integer that is not less than a number; zero if the number is not rational. -/
def ceil (a : α) : Int :=
  match value a with
  | .exact q => q.ceil
  | _ => 0

end Measure

end Prepress
