/-
# Running a command

A command works on a store of files and a journal, and ends with an exit code or with a fault.  What
it has done before a fault stays.
-/
import Prepress.Command.Arguments
import Prepress.Command.Listing
import Prepress.Console.Line
import Prepress.Journal.Setup
import Prepress.Manuscript.Preparation

namespace Prepress.Command

open Text

/-! ## Outcomes -/

/-- What keeps a command from ending properly. -/
inductive RunFault where
  | file (fault : FileFault)
  | setup (fault : Journal.SetupFault)
  | line (fault : Console.LineFault)
deriving DecidableEq

/-- The wording of a fault. -/
def RunFault.message : RunFault → Text
  | .file fault => fault.message
  | .setup fault => fault.message
  | .line fault => fault.message

/-- A command that did not end properly: what kept it from that, and the journal that it left. -/
structure Interruption where
  fault : RunFault
  journal : Journal

/-- How a run ends: with the text that explains the arguments, or after doing its task. -/
inductive Outcome where
  | usage (exit : Nat) (journal : Option Journal)
  | finished (exit : Nat) (journal : Journal)

/-- How a run ends, if nothing interrupts it. -/
abbrev Ending := Except Interruption Outcome

/-- The exit code of a run. -/
def Ending.exitCode : Ending → Nat
  | .error _ => 1
  | .ok (.usage exit _) => exit
  | .ok (.finished exit _) => exit

/-- The journal that a run leaves, if it has come to begin one. -/
def Ending.journal? : Ending → Option Journal
  | .error interruption => some interruption.journal
  | .ok (.usage _ journal) => journal
  | .ok (.finished _ journal) => some journal

/-! ## Steps -/

/-- Shows a line in a colour on the error output. -/
def announce (colour : String) (line : Text) (j : Journal) : Except Interruption Journal :=
  match Console.styled colour.toList line with
  | .error fault => .error ⟨.line fault, j⟩
  | .ok shown => .ok (j.showLine shown)

/-- Sets up the journal as the arguments ask for it. -/
def setUp (a : Arguments) (j : Journal) : Except Interruption Journal :=
  let started := (j.setup a.level a.rich).journal
  match a.logFile with
  | none => .ok started
  | some path =>
    let step := started.addFile (some Journal.rootName)
      ⟨some path, a.level, .standard, Journal.standardMaxBytes,
        Journal.standardBackups⟩
    match step.fault with
    | none => .ok step.journal
    | some (.file fault) => .error ⟨.file fault, step.journal⟩
    | some fault => .error ⟨.setup fault, step.journal⟩

/-- The text of the file at a path. -/
def readInput (path : Path) (j : Journal) : Except Interruption Text :=
  match j.outlets.store.readText path with
  | .error fault => .error ⟨.file fault, j⟩
  | .ok t => .ok t

/-- Writes a file, with the folders above it. -/
def writeOutput (path : Path) (t : Text) (j : Journal) : Except Interruption Journal :=
  match j.outlets.store.needFolder path.parent with
  | (store, some fault) => .error ⟨.file fault, j.withStore store⟩
  | (store, none) =>
    match store.write path (encodeText t) with
    | .error fault => .error ⟨.file fault, j.withStore store⟩
    | .ok store => .ok (j.withStore store)

/-- The options of a manuscript with a date format, if one is given. -/
def manuscriptOptions (dateFormat : Option Text) : Manuscript.Options Float :=
  let standard : Manuscript.Options Float := .standard
  { standard with dateFormat := dateFormat.getD standard.dateFormat }

/-! ## Tasks -/

/-- Prepares the manuscript at a path, and writes the result to a file or prints it. -/
def process (now : Instant) (input : Path) (output dateFormat : Option Text) (j : Journal) :
    Except Interruption Journal := do
  let j := j.logNotes [.processing input.text]
  let text ← readInput input j
  let options := manuscriptOptions dateFormat
  let prepared := Manuscript.prepare options now ['\n'] text
  let j := j.logNotes (Manuscript.prepareNotes options now text)
  match output with
  | none => .ok (j.print prepared)
  | some name =>
    let j ← writeOutput (Path.ofText name) prepared j
    let j := j.logNotes [.processed input.text (Path.ofText name).text]
    announce "green" ("✓ Saved: ".toList ++ name) j

/-- What there is to know about the fields of a text from a path. -/
def Listing.ofText (path : Path) (text : Text) : Listing :=
  let names := Manuscript.fieldNames Signature.Options.standard text
  { file := path.text
    hasBlocks := Manuscript.hasSignatureBlocks text
    fields := names
    duplicates := Field.collisions names }

/-- Warns of names, one after the other. -/
def warnOf : List Text → Journal → Except Interruption Journal
  | [], j => .ok j
  | name :: names, j => do
    warnOf names (← announce "yellow" ("Duplicate field name: ".toList ++ name) j)

/-- Lists the fields of the manuscript at a path. -/
def fields (input : Path) (json : Bool) (j : Journal) : Except Interruption Journal := do
  let text ← readInput input j
  let j := j.logNotes (Manuscript.fieldNotes text)
  let listing := Listing.ofText input text
  if json then .ok (j.print (listing.object ++ ['\n']))
  else warnOf listing.duplicates (j.print listing.plain)

/-- The name and the version of the program, and what it is for. -/
def versionText : Text :=
  "MarkQuill v0.1.0\nMarkdown directive pre-processor for PDF generation\n".toList

/-- Does a task with a file, which must be there. -/
def withInput (input : Text) (task : Path → Journal → Except Interruption Journal)
    (j : Journal) : Ending :=
  let path := Path.ofText input
  match j.outlets.store.reaches path with
  | .error fault => .error ⟨.file fault, j⟩
  | .ok true => (task path j).map (.finished 0)
  | .ok false =>
    (announce "red" ("Error: File not found: ".toList ++ path.text) j).map (.finished 1)

/-- Does what the arguments ask for. -/
def perform (now : Instant) (a : Arguments) (j : Journal) : Ending := do
  let j ← setUp a j
  match a.task with
  | none => .ok (.usage 0 (some j))
  | some .version => .ok (.finished 0 (j.print versionText))
  | some (.process input output dateFormat) =>
    withInput input (fun path => process now path output dateFormat) j
  | some (.fields input json) => withInput input (fun path => fields path json) j

/-- Runs a command line. -/
def ending (now : Instant) (line : List Text) (j : Journal) : Ending :=
  match Arguments.read line with
  | .error .helped => .ok (.usage 0 none)
  | .error .refused => .ok (.usage 2 none)
  | .ok a => perform now a j

/-- Runs a command line; of an interruption only the fault counts. -/
def run (now : Instant) (line : List Text) (j : Journal) : Except RunFault Outcome :=
  (ending now line j).mapError (·.fault)

end Prepress.Command
