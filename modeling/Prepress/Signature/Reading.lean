/-
# Reading a signature block

Lines of three hyphens divide a block into sections.  In a section, the first line with a
number sign is its title and the lines after it are its table: a header, a line of hyphens, and
the rows.  Cells stand between bars.
-/
import Prepress.Note
import Prepress.Signature.Basic
import Prepress.Signature.Label
import Prepress.Text.Lines

namespace Prepress.Signature

open Text

/-! ## Tables -/

/-- A list without an empty text at its beginning. -/
def dropEmptyFirst : List Text → List Text
  | [] :: cells => cells
  | cells => cells

/-- A list without an empty text at its end. -/
def dropEmptyLast (cells : List Text) : List Text :=
  if cells.getLast? = some [] then cells.dropLast else cells

/-- The trimmed cells of a line; what bars at the ends of the line cut off does not count. -/
def splitRow (line : Text) : List Text :=
  dropEmptyLast (dropEmptyFirst ((splitOn '|' line).map trim))

/-- Whether a line has cells. -/
def hasBar (line : Text) : Bool := '|' ∈ line

/-- Whether a line divides the header from the rows. -/
def isDivider (line : Text) : Bool := hasBar line && occursIn ['-', '-'] line

/-- The header line of a table and the lines after its divider. -/
def head? (lines : List Text) : Option (Text × List Text) :=
  match lines.dropWhile fun l => !hasBar l with
  | [] => none
  | header :: rest =>
    match rest.dropWhile fun l => !isDivider l with
    | [] => none
    | _ :: body => some (header, body)

/-- The row that a line holds: a label and at least one value. -/
def Row.read? (line : Text) : Option Row :=
  if hasBar line then
    match splitRow line with
    | label :: value :: values => some ⟨plainLabel label, value :: values⟩
    | _ => none
  else none

/-- The note on a line that has too few cells. -/
def rowNote? (line : Text) : Option Note :=
  if hasBar line && (splitRow line).length < 2 then some (.shortRow line) else none

/-- The header cells and the row lines of a table, or what is wrong with it. -/
def tableParts (lines : List Text) : Except Cause (List Text × List Text) :=
  match head? lines with
  | none => .error .tableWithoutHead
  | some (header, body) =>
    if (splitRow header).length < 2 then .error (.tableWithoutSignatories header)
    else .ok (splitRow header, body)

/-- The headers and the rows of a table, or what is wrong with it. -/
def readTable (lines : List Text) : Except Cause (List Text × List Row) :=
  (tableParts lines).map fun (headers, body) => (headers, body.filterMap Row.read?)

/-! ## Sections -/

/-- The title among some lines and the lines after it, or all lines if there is no title. -/
def titleAndBody (lines : List Text) : Option Text × List Text :=
  match lines.dropWhile fun l => l.head? != some '#' with
  | [] => (none, lines)
  | l :: body => (some (trim (l.dropWhile (· == '#'))), body)

/-- The section with a title and a table. -/
def Section.ofLines (title : Option Text) (body : List Text) : Section :=
  match readTable body with
  | .ok (headers, rows) => ⟨title, headers, rows, none⟩
  | .error cause => ⟨title, [], [], some cause.text⟩

/-- The notes on the table of a section. -/
def tableNotes (title : Option Text) (body : List Text) : List Note :=
  match tableParts body with
  | .ok (_, rows) => rows.filterMap rowNote?
  | .error cause => [.invalidTable title cause]

/-- The section that a text holds; a blank text holds none. -/
def Section.read? (text : Text) : Option Section :=
  match contentLines text with
  | [] => none
  | lines => some (Section.ofLines (titleAndBody lines).1 (titleAndBody lines).2)

/-- The notes on a section. -/
def sectionNotes (text : Text) : List Note :=
  match contentLines text with
  | [] => []
  | lines => tableNotes (titleAndBody lines).1 (titleAndBody lines).2

/-! ## Blocks -/

/-- Whether a line divides sections: three hyphens, with spaces and tabulators around them. -/
def isSectionBreak (line : Text) : Bool :=
  match after? ['-', '-', '-'] (line.dropWhile isIndent) with
  | some rest => rest.all isIndent
  | none => false

/-- The lines between the lines that divide sections. -/
def groupLines : List Text → List (List Text)
  | [] => [[]]
  | l :: ls =>
    if isSectionBreak l then [] :: groupLines ls
    else
      match groupLines ls with
      | [] => [[l]]
      | g :: gs => (l :: g) :: gs

/-- The texts between the lines that divide sections. -/
def sectionTexts (text : Text) : List Text :=
  (groupLines (splitOn '\n' (normalizeNewlines text))).map (join ['\n'])

/-- The sections of a block. -/
def readBlock (text : Text) : List Section := (sectionTexts text).filterMap Section.read?

/-- The notes on the sections of a block. -/
def blockNotes (text : Text) : List Note := (sectionTexts text).flatMap sectionNotes

end Prepress.Signature
