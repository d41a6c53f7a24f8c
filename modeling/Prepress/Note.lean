/-
# Notes

What the program has to say about its work: lines that are passed over, names that collide,
blocks that fail.  A note has a level, a source and a wording.
-/
import Prepress.Fault
import Prepress.Text.Quoted

namespace Prepress

open Text

/-! ## Levels -/

/-- The levels of notes, and the level of a logger that has none of its own. -/
inductive Level where
  | unset
  | debug
  | info
  | warning
  | error
  | critical
deriving DecidableEq

namespace Level

/-- The rank of a level. -/
def rank : Level → Nat
  | .unset => 0
  | .debug => 10
  | .info => 20
  | .warning => 30
  | .error => 40
  | .critical => 50

/-- The name of a level. -/
def name : Level → String
  | .unset => "NOTSET"
  | .debug => "DEBUG"
  | .info => "INFO"
  | .warning => "WARNING"
  | .error => "ERROR"
  | .critical => "CRITICAL"

/-- Whether a record of one level passes a threshold. -/
def passes (level threshold : Level) : Bool := threshold.rank ≤ level.rank

end Level

/-! ## Notes -/

/-- The two kinds of blocks. -/
inductive BlockKind where
  | signatures
  | timeline
deriving DecidableEq

/-- What there is to say. -/
inductive Note where
  | unrecognizedLine (line : Text)
  | taskOutsideSection (line : Text)
  | incompleteTask (label : Text)
  | unreadableDate (label token : Text)
  | taskBeyondCalendar (label : Text)
  | noTasks
  | drawn (sections tasks : Nat) (days : Text)
  | shortRow (line : Text)
  | invalidTable (title : Option Text) (cause : Cause)
  | duplicateField (name : Text)
  | failedBlock (kind : BlockKind)
  | processing (input : Text)
  | processed (input output : Text)
  | loggingStarted (level : Text) (rich : Bool)

namespace Note

/-- The level of a note. -/
def level : Note → Level
  | .noTasks | .invalidTable .. | .duplicateField _ => .warning
  | .failedBlock _ => .error
  | .processing _ | .processed .. => .info
  | _ => .debug

/-- The name of the logger that a note goes to. -/
def source : Note → Text
  | .unrecognizedLine _ | .taskOutsideSection _ | .incompleteTask _ | .unreadableDate ..
  | .taskBeyondCalendar _ => "markquill.parser.timeline_parser".toList
  | .noTasks | .drawn .. => "markquill.renderers.timeline_renderer".toList
  | .shortRow _ | .invalidTable .. => "markquill.parser.signature_parser".toList
  | .duplicateField _ => "markquill.renderers.signature_renderer".toList
  | .failedBlock _ | .processed .. => "markquill.engine.directive_processor".toList
  | .processing _ => "markquill.cli".toList
  | .loggingStarted .. => "markquill.utils.rich_logger".toList

/-- A title between quotation marks, or the word for a missing one. -/
def quotedTitle : Option Text → Text
  | some title => quoted title
  | none => "None".toList

/-- The wording of a note. -/
def message : Note → Text
  | .unrecognizedLine line => "Skipping unrecognized timeline line: ".toList ++ quoted line
  | .taskOutsideSection line => "Skipping task outside of a section: ".toList ++ quoted line
  | .incompleteTask label =>
    "Skipping task ".toList ++ quoted label ++ ": expected id and date".toList
  | .unreadableDate label token =>
    "Skipping task ".toList ++ quoted label ++ ": ".toList
      ++ (Cause.unrecognizedDate token).text
  | .taskBeyondCalendar label =>
    "Skipping task ".toList ++ quoted label ++ ": end date out of range".toList
  | .noTasks => "Timeline block contains no parsable tasks".toList
  | .drawn sections tasks days =>
    "Rendered timeline: ".toList ++ ofNat sections ++ " sections, ".toList ++ ofNat tasks
      ++ " tasks, ".toList ++ days ++ " days".toList
  | .shortRow line =>
    "Dropping signature row with fewer than two cells: ".toList ++ quoted line
  | .invalidTable title cause =>
    "Invalid signature table in section ".toList ++ quotedTitle title ++ ": ".toList
      ++ cause.text
  | .duplicateField name =>
    "Duplicate signature field name ".toList ++ quoted name
      ++ "; the last occurrence wins".toList
  | .failedBlock .signatures => "Failed to render signature block".toList
  | .failedBlock .timeline => "Failed to render timeline block".toList
  | .processing input => "Processing ".toList ++ input
  | .processed input output =>
    "Processed ".toList ++ input ++ " -> ".toList ++ output
  | .loggingStarted level rich =>
    "Logging initialized at ".toList ++ level ++ " level (rich=".toList
      ++ (if rich then "True" else "False").toList ++ ")".toList

end Note

end Prepress
