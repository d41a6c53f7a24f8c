/-
# Setting up a journal

The ways to set levels and to add handlers.  Each is a step from one journal to the next, and
may end in a fault; what it did before the fault stays.
-/
import Prepress.Journal.Basic
import Prepress.Text.Case

namespace Prepress.Journal

open Text

/-! ## Faults -/

/-- What can be wrong with a step. -/
inductive SetupFault where
  | invalidLevel (name : Text)
  | unknownLevel (name : Text)
  | noLevel
  | emptyName
  | notALogger
  | emptyPath
  | invalidPattern (pattern : Text)
  | file (fault : FileFault)
deriving DecidableEq

/-- The wording of a fault. -/
def SetupFault.message : SetupFault → Text
  | .invalidLevel name => "Invalid log level: ".toList ++ name
  | .unknownLevel name => "Unknown level: ".toList ++ quoted name
  | .noLevel => "Level not an integer or a valid string".toList
  | .emptyName => "Logger name must be a non-empty string".toList
  | .notALogger => "Logger must be a logging.Logger instance".toList
  | .emptyPath => "File path must be a non-empty string".toList
  | .invalidPattern pattern =>
    "Invalid format '".toList ++ pattern ++ "' for '%' style".toList
  | .file fault => fault.message

/-- A step's outcome: the journal after it, and the fault it ended in, if any. -/
structure Step where
  journal : Journal
  fault : Option SetupFault

/-- A step without a fault. -/
def Step.done (j : Journal) : Step := ⟨j, none⟩

/-- A step that ended in a fault. -/
def Step.failed (j : Journal) (fault : SetupFault) : Step := ⟨j, some fault⟩

/-! ## Names of levels -/

/-- The upper-case form of a character, as far as it is made of ASCII letters. -/
def upperForm (c : Char) : Text :=
  if c = 'ﬅ' ∨ c = 'ﬆ' then ['S', 'T'] else [upperChar c]

/-- A name in upper case. -/
def upperName (name : Text) : Text := name.flatMap upperForm

/-- The levels that a name may stand for. -/
def namedLevels : List Level := [.debug, .info, .warning, .error, .critical]

/-- The level of a name, in any letter case. -/
def levelNamed? (name : Text) : Option Level :=
  namedLevels.find? fun level => level.name.toList == upperName name

/-- The level of a name when the program is set up: further names count, and an unknown name
stands for the level of information.  Two names are refused, that of the short pattern and that
of the table of styles. -/
def setupLevel (name : Text) : Except SetupFault Level :=
  match levelNamed? name with
  | some level => .ok level
  | none =>
    let name := upperName name
    if name = "WARN".toList then .ok .warning
    else if name = "FATAL".toList then .ok .critical
    else if name = "NOTSET".toList then .ok .unset
    else if name = "BASIC_FORMAT".toList then
      .error (.unknownLevel "%(levelname)s:%(name)s:%(message)s".toList)
    else if name = "_STYLES".toList then .error .noLevel
    else .ok .info

/-! ## Steps -/

/-- The size at which a journal file is full unless another one is asked for. -/
def standardMaxBytes : Int := 10485760

/-- The number of earlier files that are kept unless another one is asked for. -/
def standardBackups : Int := 5

/-- A journal file to be written; a path that is no text is missing. -/
structure FileOptions where
  path : Option Text
  level : Text
  pattern : Pattern
  maxBytes : Int
  backups : Int

/-- The journal with other files. -/
def withStore (j : Journal) (store : Store) : Journal :=
  { j with outlets := { j.outlets with store } }

/-- The journal with a handler added to a logger. -/
def addHandler (j : Journal) (name : Text) (h : Handler) : Journal :=
  j.update name fun l => { l with handlers := l.handlers ++ [h] }

/-- The journal without handlers of the root. -/
def clearRoot (j : Journal) : Journal := { j with root := { j.root with handlers := [] } }

/-- The journal with a file opened at a written path, and the number of the file or what kept
it from being opened. -/
def openFile (j : Journal) (written : Text) : Journal × Except FileFault Nat :=
  match j.outlets.store.makeFolder (Path.folderOf written) with
  | (store, some fault) => (j.withStore store, .error fault)
  | (store, none) =>
    match store.openForAppending (Path.ofText written).resolved with
    | .error fault => (j.withStore store, .error fault)
    | .ok (store, stream) => (j.withStore store, .ok stream)

/-- Adds a file to a logger, which is missing if something else was given for it.  The file is
there before the level is looked at. -/
def addFile (j : Journal) (name : Option Text) (o : FileOptions) : Step :=
  match name with
  | none => .failed j .notALogger
  | some name =>
    let j := j.enter name
    match o.path with
    | none | some [] => .failed j .emptyPath
    | some written =>
      match j.openFile written with
      | (j, .error fault) => .failed j (.file fault)
      | (j, .ok stream) =>
        match levelNamed? o.level with
        | none => .failed j (.invalidLevel o.level)
        | some level =>
          .done (j.addHandler name
            ⟨.file (Path.ofText written).resolved o.maxBytes o.backups stream, level, o.pattern⟩)

/-- Sets the root's level, and puts a handler for the output, and perhaps a file, in the place
of its handlers.  The empty text asks for the standard pattern. -/
def configure (j : Journal) (levelName pattern : Text) (file : Text) (maxBytes backups : Int) :
    Step :=
  match levelNamed? levelName with
  | none => .failed j (.invalidLevel levelName)
  | some level =>
    let cleared := (j.setLoggerLevel rootName level).clearRoot
    match if pattern.isEmpty then some Pattern.standard else Pattern.of? pattern with
    | none => .failed cleared (.invalidPattern pattern)
    | some pattern =>
      let printing := cleared.addHandler rootName ⟨.output, level, pattern⟩
      if file.isEmpty then .done printing
      else printing.addFile rootName ⟨some file, levelName, pattern, maxBytes, backups⟩

/-- Sets the level of the root and of its handlers. -/
def setLevel (j : Journal) (levelName : Text) : Step :=
  match levelNamed? levelName with
  | none => .failed j (.invalidLevel levelName)
  | some level =>
    .done ((j.setLoggerLevel rootName level).update rootName fun l =>
      { l with handlers := l.handlers.map fun h => { h with level } })

/-- Enters a logger, and gives it a level and a handler for the output if it has no handler. -/
def getLogger (j : Journal) (name : Option Text) : Step :=
  match name with
  | none | some [] => .failed j .emptyName
  | some name =>
    let j := j.enter name
    if (j.logger name).handlers.isEmpty then
      .done ((j.setLoggerLevel name .info).addHandler name ⟨.output, .info, .standard⟩)
    else .done j

/-- Sets the root's level and puts a display, or a handler for the error output, in the place
of its handlers.  The step itself is logged. -/
def setup (j : Journal) (levelName : Text) (rich : Bool) : Step :=
  let cleared := j.clearRoot
  match setupLevel levelName with
  | .error fault => .failed cleared fault
  | .ok level =>
    let handler : Handler :=
      if rich then ⟨.display, .unset, .messageOnly⟩
      else ⟨.errorOutput, .unset, .standard⟩
    .done (((cleared.setLoggerLevel rootName level).addHandler rootName handler).logNotes
      [.loggingStarted levelName rich])

end Prepress.Journal
