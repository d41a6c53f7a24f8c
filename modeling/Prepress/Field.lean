/-
# Names of form fields

A fillable cell is known by its section, its column and its label.  The three are joined by
underscores after all blanks are taken out, and slashes are taken out of the label.
-/
import Prepress.Text.Numeral

namespace Prepress.Field

open Text

/-- The column's part of a name: the compact header, or its place if the header is blank. -/
def columnComponent (column : Text) (index : Int) : Text :=
  if (compact column).isEmpty then "Col".toList ++ Text.ofInt index else compact column

/-- The label's part of a name. -/
def labelComponent (label : Text) : Text := (compact label).filter (· != '/')

/-- The name of a field. -/
def identifier (title column label : Text) : Text :=
  compact title ++ ['_'] ++ compact column ++ ['_'] ++ labelComponent label

/-- The names without repetitions, in the order of their first occurrences. -/
def firstOccurrences : List Text → List Text
  | [] => []
  | n :: ns => n :: (firstOccurrences ns).filter (· != n)

/-- The names that occur more than once, in the order of their first occurrences. -/
def collisions (names : List Text) : List Text :=
  (firstOccurrences names).filter fun n => 1 < names.count n

/-- No name holds a blank, whatever it is made of. -/
theorem not_isBlank_of_mem_identifier {title column label : Text} {c : Char}
    (h : c ∈ identifier title column label) : isBlank c = false := by
  simp only [identifier, labelComponent, List.mem_append, List.mem_singleton,
    List.mem_filter] at h
  rcases h with (((h | h) | h) | h) | h
  · exact not_isBlank_of_mem_compact h
  · subst h; decide
  · exact not_isBlank_of_mem_compact h
  · subst h; decide
  · exact not_isBlank_of_mem_compact h.1

end Prepress.Field
