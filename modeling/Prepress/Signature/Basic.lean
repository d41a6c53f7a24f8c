/-
# Signature tables

A section of a signature block has a title, perhaps, a row of headers and rows of values.  The
first header stands over the labels of the rows and the others name the signatories.  A cell
whose value is a placeholder becomes a form field.
-/
import Prepress.Field
import Prepress.Text.Search

namespace Prepress.Signature

open Text

/-- A row: a label and one value for each signatory. -/
structure Row where
  label : Text
  values : List Text
deriving DecidableEq

/-- A section of a signature block; a malformed table leaves an error and no rows. -/
structure Section where
  title : Option Text
  headers : List Text
  rows : List Row
  error : Option Text
deriving DecidableEq

/-- The names of the signatories' columns. -/
def Section.signatories (s : Section) : List Text := s.headers.drop 1

/-- Whether the table of a section could be read. -/
def Section.isValid (s : Section) : Bool := s.error.isNone

/-- A signatory's cell: its column, its value and the name of its field. -/
structure Cell where
  column : Text
  value : Text
  fieldName : Text
deriving DecidableEq

/-- Whether a value is a placeholder: blank, holding three points in a row, or made of points
and blanks. -/
def isPlaceholder (value : Text) : Bool :=
  isAllBlank value || occursIn ['.', '.', '.'] value || value.all fun c => isBlank c || c == '.'

/-- Whether a cell becomes a form field. -/
def Cell.isFillable (c : Cell) : Bool := isPlaceholder c.value

/-- The name under which a section's fields are known: its title, or a substitute if the title
is missing or empty. -/
def Section.fieldTitle (untitled : Text) (s : Section) : Text :=
  match s.title with
  | some (c :: t) => c :: t
  | _ => untitled

/-- The cells of a row, each value under its column; values beyond the last column are left
out. -/
def Section.cells (untitled : Text) (s : Section) (row : Row) : List Cell :=
  ((s.signatories.zip row.values).zipIdx 1).map fun ((column, value), index) =>
    { column, value
      fieldName := Field.identifier (s.fieldTitle untitled)
        (Field.columnComponent column index) row.label }

/-- The names of the form fields of some sections, in order. -/
def fieldNames (untitled : Text) (sections : List Section) : List Text :=
  (sections.filter Section.isValid).flatMap fun s =>
    s.rows.flatMap fun row =>
      ((s.cells untitled row).filter Cell.isFillable).map Cell.fieldName

end Prepress.Signature
