/-
# Durations

A duration is a number of days or, with an `h` at its end, of hours; or it marks a milestone,
as does an identifier made of a milestone word and digits.
-/
import Prepress.Number.Measure
import Prepress.Text.Case
import Prepress.Text.Digit

namespace Prepress.Timeline

open Text

/-! ## Milestones -/

/-- The words that mark a milestone. -/
def milestoneWords : List Text := ["m".toList, "milestone".toList]

/-- Whether a trimmed text is a milestone word. -/
def isMilestoneToken (t : Text) : Bool :=
  milestoneWords.any fun word => (afterWord? word t).any List.isEmpty

/-- Whether a trimmed text is a milestone word with digits after it, or without. -/
def isMilestoneIdentifier (t : Text) : Bool :=
  milestoneWords.any fun word => (afterWord? word t).any (·.all isDigit)

/-! ## Numerals -/

/-- The digits of the first numeral of a text before and after its point.  A numeral is a run
of digits, with a point and digits after it, or a point with digits after it. -/
def firstNumeral? : Text → Option (Text × Text)
  | [] => none
  | c :: t =>
    if c.isDigit then
      match t.dropWhile Char.isDigit with
      | '.' :: rest => some (c :: t.takeWhile Char.isDigit, rest.takeWhile Char.isDigit)
      | _ => some (c :: t.takeWhile Char.isDigit, [])
    else if c = '.' ∧ (t.takeWhile Char.isDigit) ≠ [] then some ([], t.takeWhile Char.isDigit)
    else firstNumeral? t

/-! ## Durations -/

/-- How long a task takes. -/
structure Duration (α : Type) where
  days : α
  milestone : Bool

variable {α : Type} [Measure α]

/-- The days of a token that marks no milestone. -/
def daysOf (token : Text) : α :=
  let number : α :=
    match firstNumeral? token with
    | some (whole, fraction) => Measure.decimal (digitsToNat (whole ++ fraction)) fraction.length
    | none => Measure.ofInt 1
  if token.getLast? = some 'h' then number / Measure.ofInt 24 else number

/-- The duration of a task, from its token and from the identifier of the task. -/
def Duration.read (token identifier : Text) : Duration α :=
  let token := token.trim.lower
  if isMilestoneToken token || isMilestoneIdentifier identifier.trim then
    ⟨Measure.ofInt 0, true⟩
  else ⟨daysOf token, false⟩

end Prepress.Timeline
