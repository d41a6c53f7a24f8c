/-
# The drawing of a timeline

An axis with ticks, and below it one row for each heading and for each task.  A task is drawn
as a bar as long as it takes, a milestone as a diamond.
-/
import Prepress.Font.Metrics
import Prepress.Timeline.Layout

namespace Prepress.Timeline

variable {α : Type} [Measure α]

/-! ## Ticks -/

/-- A tick of the axis: its day, its place and its moment. -/
structure Tick (α : Type) where
  day : Nat
  x : α
  moment : Instant

namespace Layout

/-- The number of days that the axis covers. -/
def dayCount (l : Layout α) : Nat := (Measure.ceil l.totalDays).toNat

/-- The days from one tick to the next: one day, and about a tenth of a span of more than
thirty-one days. -/
def tickStep (l : Layout α) : Nat :=
  if Measure.le l.totalDays (Measure.ofInt 31) then 1 else max 1 ((l.dayCount + 9) / 10)

/-- The days of the axis at which a tick is due. -/
def tickDays (l : Layout α) : List Nat :=
  (List.range (l.dayCount / l.tickStep + 1)).map (· * l.tickStep)

/-- The tick at a day, if the calendar reaches it. -/
def tick? (l : Layout α) (day : Nat) : Option (Tick α) :=
  (l.start.shift? (day * dayMicros : Nat)).map fun moment =>
    ⟨day, Measure.ofInt day * l.dayWidth, moment⟩

/-- The ticks at some days, up to the first day that has none. -/
def ticksAt {α : Type} (tick? : Nat → Option (Tick α)) : List Nat → List (Tick α)
  | [] => []
  | day :: days =>
    match tick? day with
    | some t => t :: ticksAt tick? days
    | none => []

/-- The ticks of the axis, up to the end of the calendar. -/
def ticks (l : Layout α) : List (Tick α) := ticksAt l.tick? l.tickDays

end Layout

/-! ## Rows -/

/-- The figure of a task. -/
inductive Figure (α : Type) where
  | bar (x y width : α) (start : Instant)
  | diamond (x y size : α)

/-- A row of the drawing, with the base line of its text. -/
inductive Row (α : Type) where
  | heading (baseline : α) (name : Text)
  | task (baseline : α) (label : Text) (figure : Figure α)

/-- The measurements of the canvas that the rows are placed by. -/
structure Frame (α : Type) where
  labelWidth : α
  rowHeight : α
  top : α
  milestoneSize : α
  minBarWidth : α

namespace Frame

/-- The frame of a canvas, unless it is beyond every number. -/
def of? (options : Options α) : Option (Frame α) := do
  let labelWidth ← Measure.ofInt? options.canvas.labelWidth
  let rowHeight ← Measure.ofInt? options.canvas.rowHeight
  let top ← Measure.ofInt? (options.canvas.headerHeight + 10)
  pure ⟨labelWidth, rowHeight, top, options.milestoneSize, options.minBarWidth⟩

/-- The upper edge of the task row that ends at a height. -/
def rowTop (f : Frame α) (y : α) : α := y - f.rowHeight / Measure.ofInt 2

/-- The figure of a task in the row that ends at a height. -/
def figure (f : Frame α) (l : Layout α) (y : α) (t : Task α) : Figure α :=
  let x := f.labelWidth + l.offset t.start
  if t.milestone then
    .diamond (x + f.minBarWidth / Measure.ofInt 2) (f.rowTop y + Measure.ofInt 8) f.milestoneSize
  else
    .bar x (f.rowTop y) (Measure.greater f.minBarWidth (t.effectiveDays * l.dayWidth)) t.start

end Frame

/-- A heading or a task. -/
inductive Item (α : Type) where
  | heading (name : Text)
  | task (t : Task α)

/-- The headings and the tasks of a document, in order. -/
def Document.items (d : Document α) : List (Item α) :=
  d.sections.flatMap fun s => .heading s.name :: s.tasks.map .task

/-- The row of an item at a height. -/
def Item.row (f : Frame α) (l : Layout α) (shown : Text → Text) (y : α) : Item α → Row α
  | .heading name => .heading (y + Measure.ofInt 12) name
  | .task t => .task (f.rowTop y + Measure.ofInt 12) (shown t.label) (f.figure l y t)

/-- The rows of items one below the other, the first at a given height. -/
def placeItems (f : Frame α) (l : Layout α) (shown : Text → Text) : α → List (Item α) → List (Row α)
  | _, [] => []
  | y, item :: items =>
    item.row f l shown y :: placeItems f l shown (y + f.rowHeight) items

/-! ## Drawings -/

/-- A drawing. -/
structure Drawing (α : Type) where
  canvas : Canvas
  barHeight : Int
  layout : Layout α
  title : Option Text
  ticks : List (Tick α)
  rows : List (Row α)

/-- How labels are shown: as they are, or cut to the label column. -/
def Options.label? (options : Options α) : Except DrawingFault (Text → Text) :=
  if options.truncateLabels then
    match Font.Face.named? options.labelFont with
    | none => .error (.unknownFont options.labelFont)
    | some face =>
      let limit : Value := .exact (options.canvas.labelWidth - 20 : Int)
      let style : Font.Style α := ⟨face, options.labelFontSize⟩
      .ok (style.fit limit)
  else .ok id

/-- The drawing of a document with at least one task. -/
def Drawing.of? (options : Options α) (d : Document α) : Except DrawingFault (Drawing α) :=
  match Layout.of? options d with
  | .error fault => .error fault
  | .ok layout =>
    match Frame.of? options, options.label? with
    | none, _ => .error .outOfRange
    | some _, .error fault => .error fault
    | some frame, .ok shown =>
      .ok
        { canvas := options.canvas
          barHeight := options.barHeight
          layout
          title := d.title
          ticks := layout.ticks
          rows := placeItems frame layout shown frame.top d.items }

end Prepress.Timeline
