/-
# Names of months and weekdays

The English names, in full and cut to three letters.
-/
import Prepress.Text.Case

namespace Prepress.Calendar

/-- The names of the months, January first. -/
def monthNames : List Text :=
  ["January", "February", "March", "April", "May", "June", "July", "August", "September",
    "October", "November", "December"].map String.toList

/-- The first three letters of the names of the months. -/
def monthAbbreviations : List Text := monthNames.map (·.take 3)

/-- The names of the days of the week, Monday first. -/
def weekdayNames : List Text :=
  ["Monday", "Tuesday", "Wednesday", "Thursday", "Friday", "Saturday", "Sunday"].map
    String.toList

/-- The first of some words that a text begins with, letter case aside: its place in the list,
from 1, and the rest of the text. -/
def readName? (words : List Text) (t : Text) : Option (Nat × Text) :=
  (words.zipIdx 1).findSome? fun (word, number) =>
    if Text.sameLetters word (t.take word.length) then some (number, t.drop word.length)
    else none

end Prepress.Calendar
