/-
# A signature block as markup

Each section becomes a table.  A fillable cell holds an input named for its field, and any
other cell shows its value.
-/
import Prepress.Markup
import Prepress.Signature.Reading
import Prepress.Text.Case

namespace Prepress.Signature

open Text Markup

/-- The options of signature blocks. -/
structure Options where
  untitledSection : Text
  invalidTableMessage : Text
  fieldHeight : Int
  signatureFieldHeight : Int

/-- The options of signature blocks that say nothing about them. -/
def Options.standard : Options where
  untitledSection := "Unknown".toList
  invalidTableMessage := "<p>Invalid signature table format</p>".toList
  fieldHeight := 16
  signatureFieldHeight := 28

/-! ## Cells -/

/-- The style of a cell that shows a value. -/
def cellStyle : Text := "border: 1px solid #ccc; padding: 8px;".toList

/-- The style of a header. -/
def headerStyle : Text :=
  "border: 1px solid #ccc; padding: 8px; background-color: #f0f0f0; text-align: left;".toList

/-- The style of a cell that holds an input. -/
def inputCellStyle : Text := "border: 1px solid #ccc; padding: 4px;".toList

/-- Whether a label asks for a signature. -/
def asksForSignature (label : Text) : Bool := occursIn "signature".toList label.lower

/-- The cell of a row as markup. -/
def Cell.html (options : Options) (label : Text) (c : Cell) : Text :=
  if c.isFillable then
    let kind := if asksForSignature label then "signature-field" else "text-field"
    let height :=
      if asksForSignature label then options.signatureFieldHeight else options.fieldHeight
    "<td style=\"".toList ++ inputCellStyle ++ "\"><input type=\"text\" name=\"".toList
      ++ escape c.fieldName ++ "\" class=\"".toList ++ kind.toList
      ++ "\" style=\"width: 95%; height: ".toList ++ Text.ofInt height
      ++ "px; border: none; background: transparent; ".toList
      ++ "font-size: 10pt; padding: 2px;\" /></td>".toList
  else
    "<td style=\"".toList ++ cellStyle ++ "\" data-field=\"".toList ++ escape c.fieldName
      ++ "\">".toList ++ escape c.value ++ "</td>".toList

/-! ## Tables -/

/-- A header as markup; an empty one shows a space that keeps its width. -/
def headerHtml (header : Text) : Text :=
  "<th style=\"".toList ++ headerStyle ++ "\">".toList
    ++ (if header.isEmpty then "&nbsp;".toList else escape header) ++ "</th>".toList

/-- The label of a row as markup. -/
def labelHtml (label : Text) : Text :=
  "<td style=\"".toList ++ cellStyle ++ "\"><strong>".toList ++ escape label
    ++ "</strong></td>".toList

/-- The lines of a row. -/
def rowLines (options : Options) (s : Section) (row : Row) : List Text :=
  ["<tr>".toList, labelHtml row.label]
    ++ (s.cells options.untitledSection row).map (Cell.html options row.label)
    ++ ["</tr>".toList]

/-- The lines of a table. -/
def tableLines (options : Options) (s : Section) : List Text :=
  ["<table style=\"width: 100%; border-collapse: collapse; margin-bottom: 20px;\">".toList,
      "<thead><tr>".toList]
    ++ s.headers.map headerHtml
    ++ ["</tr></thead>".toList, "<tbody>".toList]
    ++ s.rows.flatMap (rowLines options s)
    ++ ["</tbody>".toList, "</table>".toList]

/-- The table of a section. -/
def Section.tableHtml (options : Options) (s : Section) : Text :=
  join ['\n'] (tableLines options s)

/-! ## Blocks -/

/-- The title of a section as markup. -/
def titleHtml (title : Text) : Text :=
  "<h3 style=\"margin-top: 20px; margin-bottom: 10px;\">".toList ++ escape title
    ++ "</h3>".toList

/-- A section: its title and its table, or the message for an invalid table. -/
def Section.parts (options : Options) (s : Section) : List Text :=
  (s.title.map titleHtml).toList
    ++ [if s.isValid then s.tableHtml options else options.invalidTableMessage]

/-- The beginning of a block. -/
def blockOpenTag : Text :=
  "<div class=\"signature-block\" style=\"margin: 20px 0; page-break-inside: avoid;\">".toList

/-- Sections as markup. -/
def sectionsHtml (options : Options) (sections : List Section) : Text :=
  join ['\n'] ([blockOpenTag] ++ sections.flatMap (Section.parts options) ++ ["</div>".toList])
    ++ ['\n']

/-- The notes on names that more than one field of some sections has. -/
def collisionNotes (options : Options) (sections : List Section) : List Note :=
  (Field.collisions (fieldNames options.untitledSection sections)).map .duplicateField

/-- A block as markup; a blank one is left out. -/
def render (options : Options) (text : Text) : Text :=
  if isAllBlank text then [] else sectionsHtml options (readBlock text)

/-- The notes on a block. -/
def renderNotes (options : Options) (text : Text) : List Note :=
  blockNotes text ++ collisionNotes options (readBlock text)

/-- The names of the form fields of a block. -/
def blockFields (options : Options) (text : Text) : List Text :=
  fieldNames options.untitledSection (readBlock text)

end Prepress.Signature
