/-
# Text widths

The width of a text is the sum of its characters' widths, scaled by the font size.  A text that
is too wide for a limit is cut to the longest beginning that leaves room for three points.
-/
import Prepress.Font.WidthTable
import Prepress.Number.Measure
import Prepress.Number.Total
import Prepress.Text.Blank

namespace Prepress.Font

/-! ## Faces -/

/-- The faces whose widths are known. -/
inductive Face where
  | sans
  | sansBold
  | serif
  | typewriter
deriving DecidableEq

/-- The names of the faces; a slanted face is as wide as its upright one. -/
def Face.names : List (String × Face) :=
  [("Helvetica", .sans), ("Helvetica-Oblique", .sans), ("Helvetica-Bold", .sansBold),
    ("Helvetica-BoldOblique", .sansBold), ("Times-Roman", .serif), ("Courier", .typewriter),
    ("Courier-Bold", .typewriter), ("Courier-Oblique", .typewriter),
    ("Courier-BoldOblique", .typewriter)]

/-- The face of a given name. -/
def Face.named? (name : Text) : Option Face :=
  (Face.names.find? fun entry => entry.1.toList == name).map (·.2)

/-! ## Widths -/

/-- The width of a character in thousandths of the font size. -/
def Face.charWidth (face : Face) (c : Char) : Nat :=
  match letterWidths.find? (·.1 == c.toNat) with
  | some (_, upright, bold, serifed) =>
    match face with
    | .sans => upright
    | .sansBold => bold
    | .serif => serifed
    | .typewriter => 600
  | none =>
    match symbolWidths.find? (·.1 == c.toNat) with
    | some (_, width) => width
    | none => missingWidth

/-- The width of a text in thousandths of the font size. -/
def Face.thousandths (face : Face) (t : Text) : Nat := total (t.map face.charWidth)

theorem Face.thousandths_append (face : Face) (a b : Text) :
    face.thousandths (a ++ b) = face.thousandths a + face.thousandths b := by
  simp [Face.thousandths]

variable {α : Type} [Measure α]

/-- A face in a size. -/
structure Style (α : Type) where
  face : Face
  size : α

/-- The width of a text. -/
def Style.width (style : Style α) (t : Text) : α :=
  Measure.ofInt (style.face.thousandths t) * Measure.decimal 1 3 * style.size

/-! ## Cutting -/

/-- Three points, for what has been cut off. -/
def ellipsis : Text := ['.', '.', '.']

/-- The longest beginning of a text that has a property, or the empty text: the beginning is
shortened, one character at a time, until the property holds. -/
def shorten (fits : Text → Bool) (t : Text) : Text :=
  if t.isEmpty || fits t then t else shorten fits t.dropLast
termination_by t.length
decreasing_by
  rename_i h
  cases t with
  | nil => simp at h
  | cons c t => simp

/-- Whether a beginning of a text and an ellipsis after it stay within a limit. -/
def hasRoom (width : Text → α) (limit : Value) (kept : Text) : Bool :=
  !limit.lt (Measure.value (width kept + width ellipsis))

/-- A text as it is if its width is within the limit, else its longest beginning that has room
for an ellipsis, without blanks at its end, and the ellipsis. -/
def cutToFit (width : Text → α) (limit : Value) (t : Text) : Text :=
  if (Measure.value (width t)).le limit then t
  else Text.trimEnd (shorten (hasRoom width limit) t) ++ ellipsis

/-- A text cut to a limit in a style. -/
def Style.fit (style : Style α) (limit : Value) (t : Text) : Text := cutToFit style.width limit t

end Prepress.Font
