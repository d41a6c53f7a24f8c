/-
# The scale of a timeline

The timeline begins with the earliest task and ends with the latest end of a task, but is at
least a day long.  Its days share the width of the drawing area, but are at least one unit
wide.  Each row has the same height.
-/
import Prepress.Timeline.Basic
import Prepress.Timeline.Options

namespace Prepress.Timeline

variable {α : Type} [Measure α]

/-- The scale of a timeline. -/
structure Layout (α : Type) where
  start : Instant
  finish : Instant
  totalDays : α
  dayWidth : α
  height : Int

namespace Layout

/-- The height that is kept free below the rows. -/
def footHeight : Int := 40

/-- The height of a canvas with so many rows. -/
def heightFor (options : Options α) (rows : Nat) : Int :=
  options.canvas.headerHeight
    + max options.minBodyHeight (rows * options.canvas.rowHeight + footHeight)

/-- The earliest start of a task and of further ones. -/
def earliestStart (first : Task α) (rest : List (Task α)) : Instant :=
  rest.foldl (fun i t => i.earlier t.start) first.start

/-- The latest of some moments. -/
def latest (first : Instant) (rest : List Instant) : Instant := rest.foldl Instant.later first

/-- The length of a timeline in days. -/
def daysBetween (start finish : Instant) : α :=
  Measure.greater (Measure.ofInt 1) (finish.daysSince start)

/-- The scale of a document with at least one task. -/
def of? (options : Options α) (d : Document α) : Except DrawingFault (Layout α) :=
  match d.tasks with
  | [] => .error .noTasks
  | first :: rest =>
    match first.finish?, rest.mapM Task.finish?,
        Measure.ofInt? (α := α) options.canvas.timelineWidth with
    | some firstEnd, some ends, some timelineWidth =>
      let start := earliestStart first rest
      let finish := latest firstEnd ends
      let totalDays : α := daysBetween start finish
      .ok
        { start, finish, totalDays
          dayWidth := Measure.greater (Measure.ofInt 1) (timelineWidth / totalDays)
          height := heightFor options d.rowCount }
    | _, _, _ => .error .outOfRange

/-- The distance of a moment from the beginning of the timeline. -/
def offset (l : Layout α) (i : Instant) : α := i.daysSince l.start * l.dayWidth

end Layout

end Prepress.Timeline
