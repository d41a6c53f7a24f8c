/-
# The program

Looks at the files that the arguments name, runs the command on a store of them, and leaves on
the disk and on the outputs what the run has left in its journal.
-/
import Prepress.Calendar.Stamp
import Prepress.Command.Run
import Std.Time.Zoned

namespace Prepress.Program

open Command

/-! ## The clock -/

/-- The moment that the clock shows. -/
def currentInstant : IO Instant := do
  let t ← Std.Time.PlainDateTime.now
  let date := Date.of? t.date.year.toNat t.date.month.val.toNat t.date.day.val.toNat
  let clock := Clock.of? t.time.hour.val.toNat t.time.minute.val.toNat t.time.second.val.toNat
    (t.time.nanosecond.val.toNat / 1000)
  match date, clock with
  | some date, some clock => pure (Instant.ofDate date clock)
  | _, _ => throw (IO.userError "the clock is outside the calendar")

/-! ## Files -/

/-- A path and the ones that lead to it. -/
def way (p : Path) : List Path :=
  (List.range p.parts.length).map fun n => Path.resolved { p with parts := p.parts.take (n + 1) }

/-- The paths that a run with some arguments may come upon. -/
def places (a : Arguments) : List Path :=
  let named : Option Text → List Path
    | none => []
    | some t => way (Path.ofText t)
  let journal := named a.logFile
  let task :=
    match a.task with
    | some (.process input output _) => named (some input) ++ named output
    | some (.fields input _) => named (some input)
    | _ => []
  journal ++ task ++ (journal.getLast?.map fun p =>
    (List.range 5).map fun n => Journal.backupPath p (n + 1)).getD []

/-- The store with what the disk has at a path. -/
def load (s : Store) (p : Path) : IO Store := do
  if s.place p != .nothing || s.names.any fun entry => p.isBelow entry.1 then pure s
  else
    try
      pure (s.create p (← IO.FS.readBinFile (String.ofList p.text)))
    catch
      | .noFileOrDirectory .. => pure s
      | _ => pure { s with folders := s.folders ++ [p] }

/-- Makes the disk hold what a store holds, given what the disk held before. -/
def save (before after : Store) : IO Unit := do
  for p in after.folders do
    unless before.isFolder p do IO.FS.createDirAll (String.ofList p.text)
  for (p, _) in before.names do
    if after.place p == .nothing then IO.FS.removeFile (String.ofList p.text)
  for (p, file) in after.names do
    unless before.read? p == some (after.content file) do
      IO.FS.writeBinFile (String.ofList p.text) (after.content file)

/-! ## The outputs -/

/-- How the program is used. -/
def usage : String :=
  "usage: markquill [-h] [--log-level LEVEL] [--no-rich] [--log-file FILE] COMMAND ...\n\n"
    ++ "commands:\n"
    ++ "  process INPUT [-o OUTPUT] [--date-format FORMAT]   expand the directives of a file\n"
    ++ "  fields INPUT [--json]                              list the names of form fields\n"
    ++ "  version                                            show the version\n"

/-- Leaves on the disk and the outputs what a run has left in its journal. -/
def publish (before : Store) (j : Journal) : IO Unit := do
  save before j.outlets.store
  IO.print (String.ofList j.outlets.output)
  IO.eprint (String.ofList j.outlets.errorOutput)

/-- Runs a command line. -/
def start (line : List Text) : IO UInt32 := do
  let now ← currentInstant
  let named :=
    match Arguments.read line with
    | .ok a => places a
    | .error _ => []
  let store ← named.foldlM load Store.empty
  let ended :=
    ending now line (.initial (Calendar.Stamp.format now "%Y-%m-%d %H:%M:%S".toList) store)
  match ended with
  | .ok (.usage exit _) => if exit = 0 then IO.print usage else IO.eprint usage
  | _ => pure ()
  ended.journal?.forM (publish store)
  match ended with
  | .error interruption => IO.eprintln (String.ofList interruption.fault.message)
  | .ok _ => pure ()
  pure ended.exitCode.toUInt32

end Prepress.Program

def main (arguments : List String) : IO UInt32 :=
  Prepress.Program.start (arguments.map String.toList)
