/-
# Journals

A journal holds the root logger, the loggers with names and what they have written.  Points
divide the name of a logger, and the loggers named by the beginnings of a name are its
ancestors, up to the root.

A logger is entered in the journal when its name is first used.  It stands below the nearest
ancestor that has been entered, and when an ancestor is entered later between the two, it goes
below that one.  A record that passes the level of its logger goes to the handlers of the logger
and of the loggers above it, each with a level of its own.  Where there is no handler at all,
warnings and worse go to the error output.
-/
import Prepress.Journal.Logger

namespace Prepress

open Text Journal

/-- The loggers, what has been written, and the time that is written with it. -/
structure Journal where
  root : Logger
  loggers : List (Text × Logger)
  outlets : Outlets
  time : Text

namespace Journal

/-- The name of the root logger. -/
def rootName : Text := "root".toList

/-- A journal at its beginning: warnings and worse count. -/
def initial (time : Text) (store : Store) : Journal where
  root := { Logger.untouched [] [] with level := .warning }
  loggers := []
  outlets := ⟨[], [], store⟩
  time := time

/-- Whether a name is the root's; the empty name is. -/
def isRootName (name : Text) : Bool := name == [] || name == rootName

/-- The logger with a name, if it has been entered. -/
def find? (j : Journal) (name : Text) : Option Logger :=
  if isRootName name then some j.root else (j.loggers.find? (·.1 == name)).map (·.2)

/-- The logger with a name. -/
def logger (j : Journal) (name : Text) : Logger :=
  (j.find? name).getD (.untouched rootName [])

/-- The journal with the logger of a name changed. -/
def update (j : Journal) (name : Text) (change : Logger → Logger) : Journal :=
  if isRootName name then { j with root := change j.root }
  else
    { j with loggers := j.loggers.map fun entry =>
        if entry.1 = name then (name, change entry.2) else entry }

/-! ## Ancestors -/

/-- The places of points in a name, the last one first; of points side by side every other one
counts, and the one at the beginning never does. -/
def divisions : (points : List Nat) → List Nat
  | [] => []
  | n :: m :: rest => if m + 1 = n then n :: divisions rest else n :: divisions (m :: rest)
  | [n] => [n]

/-- The beginnings of a name that end before a point, the longest first. -/
def ancestors (name : Text) : List Text :=
  let points := ((List.range name.length).filter fun n => name[n]? == some '.').reverse
  ((divisions points).filter (0 < ·)).map name.take

/-- The logger with a name below a logger that has just been entered, if it has passed over the
new one's name and does not stand below a name that begins with it. -/
def moveBelow (entered name : Text) (l : Logger) : Text × Logger :=
  if l.passed.contains entered && !startsWith entered l.above then
    (name, { l with above := entered })
  else (name, l)

/-- The journal with a logger entered under a name. -/
def enter (j : Journal) (name : Text) : Journal :=
  if (j.find? name).isSome then j
  else
    let isEntered (n : Text) : Bool := (j.loggers.find? (·.1 == n)).isSome
    let passed := (ancestors name).takeWhile fun n => !isEntered n
    let above := ((ancestors name).find? isEntered).getD rootName
    { j with loggers := (j.loggers.map fun entry => moveBelow name entry.1 entry.2)
        ++ [(name, .untouched above passed)] }

/-- The names from a logger up to the root, at most so many above it. -/
def chainFrom (j : Journal) : (steps : Nat) → (name : Text) → List Text
  | 0, _ => [rootName]
  | steps + 1, name =>
    if isRootName name then [rootName]
    else name :: chainFrom j steps (j.logger name).above

/-- The names from a logger up to the root.  Above a name there are only shorter ones. -/
def chain (j : Journal) (name : Text) : List Text := j.chainFrom name.length name

/-- The level of a logger, or of the nearest one above that has one. -/
def effectiveLevel (j : Journal) (name : Text) : Level :=
  (((j.chain name).map fun n => (j.logger n).level).find? (· != .unset)).getD .unset

/-! ## Answers -/

/-- Whether a logger takes records of a level.  It takes none without a level, and it gives the
answer again that it has given before. -/
def takes (j : Journal) (name : Text) (level : Level) : Bool :=
  match (j.logger name).answers.find? (·.1 == level) with
  | some (_, answer) => answer
  | none => level != .unset && level.passes (j.effectiveLevel name)

/-- The journal in which a logger keeps the answer for a level. -/
def remember (j : Journal) (name : Text) (level : Level) : Journal :=
  let answer := (level, j.takes name level)
  j.update name fun l =>
    if l.answers.contains answer then l else { l with answers := answer :: l.answers }

/-- The journal in which no logger keeps answers. -/
def forget (j : Journal) : Journal :=
  { j with
    root := { j.root with answers := [] }
    loggers := j.loggers.map fun entry => (entry.1, { entry.2 with answers := [] }) }

/-- The journal with the level of a logger set.  All answers are forgotten. -/
def setLoggerLevel (j : Journal) (name : Text) (level : Level) : Journal :=
  (j.update name fun l => { l with level }).forget

/-! ## Logging -/

/-- Gives a record to the handlers of a logger. -/
def handleAt (r : Record) (j : Journal) (name : Text) : Journal :=
  let (handlers, outlets) := handleAll j.time r (j.logger name).handlers j.outlets
  { j with outlets }.update name fun l => { l with handlers }

/-- Writes a record that no handler is there for. -/
def lastResort (r : Record) (j : Journal) : Journal :=
  if r.level.passes .warning then
    { j with outlets := { j.outlets with
        errorOutput := j.outlets.errorOutput ++ r.message ++ ['\n'] } }
  else j

/-- Gives a record to the handlers of its logger and of the loggers above. -/
def deliver (j : Journal) (name : Text) (r : Record) : Journal :=
  if (j.chain name).all fun n => (j.logger n).handlers.isEmpty then lastResort r j
  else (j.chain name).foldl (handleAt r) j

/-- Logs a message. -/
def log (j : Journal) (name : Text) (level : Level) (message : Text) : Journal :=
  let j := (j.enter name).remember name level
  if j.takes name level then
    j.deliver name ⟨if isRootName name then rootName else name, level, message⟩
  else j

/-- Logs notes. -/
def logNotes (j : Journal) (notes : List Note) : Journal :=
  notes.foldl (fun j n => j.log n.source n.level n.message) j

/-- Shows a line on the error output. -/
def showLine (j : Journal) (line : Text) : Journal :=
  { j with outlets := { j.outlets with errorOutput := j.outlets.errorOutput ++ line ++ ['\n'] } }

/-- Prints a text on the output. -/
def print (j : Journal) (text : Text) : Journal :=
  { j with outlets := { j.outlets with output := j.outlets.output ++ text } }

end Journal

end Prepress
