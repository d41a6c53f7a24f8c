/-
# Timelines

A timeline has a title, perhaps, and sections of tasks.  A task begins at a moment and takes a
number of days; a milestone takes no time.
-/
import Prepress.Calendar.Span
import Prepress.Number.Total
import Prepress.Text.Blank

namespace Prepress.Timeline

variable {α : Type}

/-- A task: a bar or a milestone of the timeline. -/
structure Task (α : Type) where
  label : Text
  start : Instant
  days : α
  milestone : Bool

/-- A named group of tasks. -/
structure Section (α : Type) where
  name : Text
  tasks : List (Task α)

/-- A timeline. -/
structure Document (α : Type) where
  title : Option Text
  sections : List (Section α)

/-- The days that a task takes on the timeline. -/
def Task.effectiveDays [Measure α] (t : Task α) : α :=
  if t.milestone then Measure.ofInt 0 else t.days

/-- The moment at which a task ends, if the calendar reaches it. -/
def Task.finish? [Measure α] (t : Task α) : Option Instant := t.start.plusDays? t.effectiveDays

namespace Document

/-- All tasks, in order. -/
def tasks (d : Document α) : List (Task α) := d.sections.flatMap (·.tasks)

/-- The number of tasks. -/
def taskCount (d : Document α) : Nat := total (d.sections.map (·.tasks.length))

/-- The number of rows: one for each section's heading and one for each task. -/
def rowCount (d : Document α) : Nat := d.sections.length + d.taskCount

theorem length_tasks (d : Document α) : d.tasks.length = d.taskCount := by
  unfold tasks taskCount
  induction d.sections with
  | nil => rfl
  | cons s ss ih => simp [ih]

end Document

end Prepress.Timeline
