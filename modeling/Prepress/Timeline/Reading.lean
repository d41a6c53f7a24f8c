/-
# Reading a timeline

The content lines of a text are read one by one, and the document is gathered from what they
say.  The last title counts, every heading opens a section, and tasks before the first heading
are left out.  A line that gives no task leaves a note and nothing else.
-/
import Prepress.Calendar.Reading
import Prepress.Note
import Prepress.Timeline.Basic
import Prepress.Timeline.Duration
import Prepress.Timeline.Line

namespace Prepress.Timeline

open Text

variable {α : Type} [Measure α]

/-! ## Single lines -/

/-- The duration of a task that names none. -/
def defaultDuration : Text := "1d".toList

/-- The task that a label and parts describe: an identifier, a date and perhaps a duration.
Without a readable date, or with an end beyond the calendar, there is none. -/
def Task.ofParts (label : Text) : List Text → Except Note (Task α)
  | identifier :: date :: rest =>
    match Calendar.instant? date with
    | none => .error (.unreadableDate label date.trim)
    | some start =>
      let duration := Duration.read (rest.headD defaultDuration) identifier
      let task : Task α := ⟨label, start, duration.days, duration.milestone⟩
      match task.finish? with
      | none => .error (.taskBeyondCalendar label)
      | some _ => .ok task
  | _ => .error (.incompleteTask label)

/-- What a line adds to a document. -/
inductive Entry (α : Type) where
  | title (value : Text)
  | ignored
  | heading (name : Text)
  | unrecognized (line : Text)
  | task (line : Text) (outcome : Except Note (Task α))

/-- What a trimmed line adds to a document. -/
def Entry.ofLine (directives : List Text) (line : Text) : Entry α :=
  match Line.classify directives line with
  | none => .unrecognized line
  | some (.title value) => .title value
  | some (.ignored _) => .ignored
  | some (.heading name) => .heading name
  | some (.task label parts) => .task line (Task.ofParts label parts)

/-- What the lines of a text add to a document. -/
def entries (directives : List Text) (text : Text) : List (Entry α) :=
  (contentLines text).map (Entry.ofLine directives)

/-! ## Documents -/

/-- The last title among the entries. -/
def lastTitle : List (Entry α) → Option Text
  | [] => none
  | e :: es =>
    (lastTitle es).or
      (match e with
      | .title value => some value
      | _ => none)

/-- The tasks before the first heading, and the sections from there on. -/
def gather : List (Entry α) → List (Task α) × List (Section α)
  | [] => ([], [])
  | e :: es =>
    let (tasks, sections) := gather es
    match e with
    | .heading name => ([], ⟨name, tasks⟩ :: sections)
    | .task _ (.ok task) => (task :: tasks, sections)
    | _ => (tasks, sections)

/-- The document that the entries make up. -/
def Document.ofEntries (es : List (Entry α)) : Document α := ⟨lastTitle es, (gather es).2⟩

/-- The document that a text describes. -/
def Document.read (directives : List Text) (text : Text) : Document α :=
  .ofEntries (entries directives text)

/-! ## Notes -/

/-- The notes on entries, after a heading or before the first one. -/
def entryNotes : (inSection : Bool) → List (Entry α) → List Note
  | _, [] => []
  | _, .heading _ :: es => entryNotes true es
  | inSection, .unrecognized line :: es => .unrecognizedLine line :: entryNotes inSection es
  | false, .task line _ :: es => .taskOutsideSection line :: entryNotes false es
  | true, .task _ (.error note) :: es => note :: entryNotes true es
  | inSection, _ :: es => entryNotes inSection es

end Prepress.Timeline
