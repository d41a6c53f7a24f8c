/-
# Lines of a timeline

A line gives the title, opens a section, holds a directive to be passed over, or describes a
task.  The first of these readings that fits counts.
-/
import Prepress.Text.Case
import Prepress.Text.Lines
import Prepress.Text.Search

namespace Prepress.Timeline

open Text

/-- The readings of a line. -/
inductive Line where
  | title (value : Text)
  | ignored (directive : Text)
  | heading (name : Text)
  | task (label : Text) (parts : List Text)
deriving DecidableEq

namespace Line

/-- What follows a keyword and a space at the beginning of a line, trimmed; letter case in the
keyword does not count. -/
def argument? (keyword line : Text) : Option Text :=
  let lead := keyword ++ [' ']
  if (line.take lead.length).map Char.toLower = lead then some (trim (line.drop lead.length))
  else none

/-- The first directive that the line begins with, letter case aside. -/
def ignored? (directives : List Text) (line : Text) : Option Text :=
  directives.find? fun directive => startsWith directive.lower line.lower

/-- The trimmed parts of a text between commas that are not blank. -/
def parts (t : Text) : List Text :=
  (splitOn ',' t).filterMap fun p => if isAllBlank p then none else some (trim p)

/-- The label before the first colon and the parts after it. -/
def task? (line : Text) : Option (Text × List Text) :=
  (cut? [':'] line).map fun (label, rest) => (trim label, parts rest)

/-- The reading of a line, given the directives to be passed over. -/
def classify (directives : List Text) (line : Text) : Option Line :=
  match argument? "title".toList line with
  | some value => some (.title value)
  | none =>
    match ignored? directives line with
    | some directive => some (.ignored directive)
    | none =>
      match argument? "section".toList line with
      | some name => some (.heading name)
      | none => (task? line).map fun (label, parts) => .task label parts

end Line

end Prepress.Timeline
