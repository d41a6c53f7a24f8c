/-
# Loggers

A logger has a level and handlers, and it stands below another logger.  A handler lets records
of its level and above pass and writes them to its sink.  A file that grows too large is put
among the earlier ones and begun anew.
-/
import Prepress.Files.Store
import Prepress.Journal.Format

namespace Prepress.Journal

open Text

/-! ## Handlers -/

/-- Where a handler writes: an output of the program, a display of its own, or a file that is
begun anew when it grows too large, the last few files being kept. -/
inductive Sink where
  | output
  | errorOutput
  | display
  | file (path : Path) (maxBytes backups : Int) (stream : Nat)
deriving DecidableEq

/-- Whether a handler writes to a console. -/
def Sink.isConsole : Sink → Bool
  | .file .. => false
  | _ => true

/-- A handler: where it writes, what it lets pass, and how it writes it. -/
structure Handler where
  sink : Sink
  level : Level
  pattern : Pattern
deriving DecidableEq

/-- A logger: its level and handlers, the name of the logger above it, the names between the
two that no logger had when it was entered, and the levels that have been asked about since
levels were last set, with the answers. -/
structure Logger where
  level : Level
  handlers : List Handler
  above : Text
  passed : List Text
  answers : List (Level × Bool)
deriving DecidableEq

/-- A logger that nothing has been done to. -/
def Logger.untouched (above : Text) (passed : List Text) : Logger := ⟨.unset, [], above, passed, []⟩

/-- What the handlers write to. -/
structure Outlets where
  output : Text
  errorOutput : Text
  store : Store

/-! ## Rotation -/

/-- The name of an earlier file. -/
def backupPath (path : Path) (n : Nat) : Path := path.withEnding ('.' :: ofNat n)

/-- Gives the earlier files up to a number the next higher numbers, the last one first. -/
def shiftBackups (path : Path) : Nat → Store → Store
  | 0, s => s
  | n + 1, s => shiftBackups path n (s.rename (backupPath path (n + 1)) (backupPath path (n + 2)))

/-- Puts a file among the earlier ones and begins a new one.  Without earlier files to keep,
the file is only opened again. -/
def rollOver (path : Path) (backups : Int) (stream : Nat) (s : Store) : Store × Nat :=
  let moved :=
    if 0 < backups then
      ((shiftBackups path (backups.toNat - 1) s).remove (backupPath path 1)).rename path
        (backupPath path 1)
    else s
  match moved.openForAppending path with
  | .ok opened => opened
  | .error _ => (moved, stream)

/-- Whether a line is too much for a file. -/
def isFull (maxBytes : Int) (stream : Nat) (text : Text) (s : Store) : Bool :=
  0 < maxBytes && maxBytes ≤ (s.content stream).size + text.length

/-! ## Writing -/

/-- Writes a line where a sink leads. -/
def Sink.write (text : Text) (w : Outlets) : Sink → Sink × Outlets
  | .output => (.output, { w with output := w.output ++ text })
  | .errorOutput => (.errorOutput, { w with errorOutput := w.errorOutput ++ text })
  | .display => (.display, w)
  | .file path maxBytes backups stream =>
    let (store, stream) :=
      if isFull maxBytes stream text w.store then rollOver path backups stream w.store
      else (w.store, stream)
    (.file path maxBytes backups stream,
      { w with store := store.append stream (encodeText text) })

/-- Writes a record unless it stays below the level of the handler. -/
def Handler.handle (time : Text) (r : Record) (h : Handler) (w : Outlets) : Handler × Outlets :=
  if r.level.passes h.level then
    let (sink, w) := h.sink.write (h.pattern.line time r) w
    ({ h with sink }, w)
  else (h, w)

/-- Gives a record to handlers, one after the other. -/
def handleAll (time : Text) (r : Record) : List Handler → Outlets → List Handler × Outlets
  | [], w => ([], w)
  | h :: hs, w =>
    let (h, w) := h.handle time r w
    let (hs, w) := handleAll time r hs w
    (h :: hs, w)

end Prepress.Journal
