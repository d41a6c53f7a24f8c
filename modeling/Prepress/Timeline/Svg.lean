/-
# A timeline as vector graphics

The drawing is written as markup, one element on a line.
-/
import Prepress.Calendar.Stamp
import Prepress.Markup
import Prepress.Note
import Prepress.Number.Amount
import Prepress.Timeline.Drawing
import Prepress.Timeline.Reading

namespace Prepress.Timeline

open Text Markup

variable {α : Type} [Measure α]

/-! ## Elements -/

/-- An attribute with its value. -/
def attr (name : String) (value : Text) : Text :=
  ' ' :: name.toList ++ "=\"".toList ++ value ++ "\"".toList

/-- A text element. -/
def textElement (x y : Text) (attributes content : Text) : Text :=
  "<text".toList ++ attr "x" x ++ attr "y" y ++ attributes ++ ['>'] ++ escape content
    ++ "</text>".toList

/-- The style sheet of every drawing. -/
def styleElement : Text :=
  ("<style> .label \x7b font: 12px sans-serif; fill: #222; \x7d "
    ++ ".section \x7b font: bold 13px sans-serif; fill: #111; \x7d "
    ++ ".task \x7b fill: #4285f4; \x7d .milestone \x7b fill: #d93025; \x7d "
    ++ ".axis \x7b font: 11px sans-serif; fill: #333; \x7d </style>").toList

/-- The line and the label of a tick. -/
def Tick.elements (t : Tick α) : List Text :=
  ["<line".toList ++ attr "x1" (Amount.short t.x) ++ attr "y1" ['0']
      ++ attr "x2" (Amount.short t.x) ++ attr "y2" ['8']
      ++ attr "stroke" "#ccc".toList ++ " />".toList,
    textElement (Amount.short (t.x + Measure.ofInt 2)) "20".toList
      (attr "class" "axis".toList) (Calendar.monthAndDay t.moment.date)]

/-- A point. -/
def point (x y : α) : Text := Amount.short x ++ [','] ++ Amount.short y

/-- The elements of a figure. -/
def Figure.elements (barHeight : Int) : Figure α → List Text
  | .diamond x y size =>
    ["<polygon".toList
        ++ attr "points"
          (join [' '] [point x (y - size), point (x + size) y, point x (y + size),
            point (x - size) y])
        ++ attr "class" "milestone".toList ++ " />".toList]
  | .bar x y width start =>
    ["<rect".toList ++ attr "x" (Amount.short x) ++ attr "y" (Amount.short y)
        ++ attr "width" (Amount.short width) ++ attr "height" (Text.ofInt barHeight)
        ++ attr "rx" ['3'] ++ attr "class" "task".toList ++ " />".toList,
      textElement (Amount.short (x + Measure.ofInt 4)) (Amount.short (y + Measure.ofInt 10))
        (attr "font-size" "10px".toList ++ attr "fill" "#fff".toList)
        (Calendar.hyphenated start.date)]

/-- The elements of a row. -/
def Row.elements (barHeight : Int) : Row α → List Text
  | .heading baseline name =>
    [textElement "10".toList (Amount.short baseline) (attr "class" "section".toList) name]
  | .task baseline label figure =>
    textElement "10".toList (Amount.short baseline) (attr "class" "label".toList) label
      :: figure.elements barHeight

/-! ## Drawings -/

/-- The beginning of a drawing. -/
def Drawing.openTag (d : Drawing α) : Text :=
  let width := Text.ofInt d.canvas.width
  let height := Text.ofInt d.layout.height
  "<svg".toList ++ attr "xmlns" "http://www.w3.org/2000/svg".toList
    ++ attr "width" width ++ attr "height" height
    ++ attr "viewBox" ("0 0 ".toList ++ width ++ [' '] ++ height) ++ ['>']

/-- The title of a drawing, unless it is missing or empty. -/
def Drawing.titleElements (d : Drawing α) : List Text :=
  match d.title with
  | some (c :: t) =>
    [textElement (Text.ofInt d.canvas.labelWidth) "20".toList
      (attr "class" "section".toList) (c :: t)]
  | _ => []

/-- The group that holds the axis. -/
def Drawing.axisElements (d : Drawing α) : List Text :=
  ["<g".toList
      ++ attr "transform"
        ("translate(".toList ++ Text.ofInt d.canvas.labelWidth ++ ", ".toList
          ++ Text.ofInt (d.canvas.headerHeight - 8) ++ ")".toList)
      ++ ['>']]
    ++ d.ticks.flatMap Tick.elements ++ ["</g>".toList]

/-- The lines of a drawing. -/
def Drawing.elements (d : Drawing α) : List Text :=
  [d.openTag, styleElement] ++ d.titleElements ++ d.axisElements
    ++ d.rows.flatMap (Row.elements d.barHeight) ++ ["</svg>".toList]

/-- A drawing as a text. -/
def Drawing.text (d : Drawing α) : Text := join ['\n'] d.elements ++ ['\n']

/-! ## Documents and texts -/

/-- A text made from a block, or what prevents it, and the notes made on the way. -/
structure Rendering where
  result : Except DrawingFault Text
  notes : List Note

/-- A document drawn. -/
def Document.render (options : Options α) (d : Document α) : Rendering :=
  match Drawing.of? options d with
  | .error fault => ⟨.error fault, []⟩
  | .ok drawing =>
    ⟨.ok drawing.text,
      [.drawn d.sections.length d.taskCount (Amount.twoPlaces drawing.layout.totalDays)]⟩

/-- A text read and drawn: nothing for a blank text, and the message of the options when there
is no task in it. -/
def render (options : Options α) (text : Text) : Rendering :=
  if isAllBlank text then ⟨.ok [], []⟩
  else
    let es : List (Entry α) := entries options.ignoredDirectives text
    let d := Document.ofEntries es
    let notes := entryNotes false es
    if d.taskCount = 0 then ⟨.ok options.emptyMessage, notes ++ [.noTasks]⟩
    else
      let drawn := d.render options
      ⟨drawn.result, notes ++ drawn.notes⟩

end Prepress.Timeline
