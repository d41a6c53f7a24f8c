/-
# Quiet journals

A journal is quiet when no handler writes to the output or to a file, so that what is logged is seen
on the error output or on a display only.  Logging then leaves the output and the files as they are
(`kept_logNotes`), and the journal stays quiet.  A setup makes a quiet journal again, whichever
handler it gives to the root (`isQuiet_setup`).
-/
import Prepress.Proofs.Journal.Lines

namespace Prepress.Journal

open Text

/-! ## Sinks -/

/-- Whether what is written to a sink goes neither to the output nor to a file. -/
def Sink.isQuiet : Sink → Bool
  | .errorOutput | .display => true
  | .output | .file .. => false

/-- The output and the files. -/
def Outlets.kept (w : Outlets) : Text × Store := (w.output, w.store)

theorem isQuiet_asGiven (sink : Sink) : sink.asGiven.isQuiet = sink.isQuiet := by
  cases sink <;> rfl

theorem kept_write {sink : Sink} (h : sink.isQuiet = true) (text : Text) (w : Outlets) :
    (sink.write text w).2.kept = w.kept := by
  cases sink with
  | errorOutput | display => rfl
  | output | file path maxBytes backups stream => cases h

theorem kept_handle {h : Handler} (hq : h.sink.isQuiet = true) (time : Text) (r : Record)
    (w : Outlets) : (h.handle time r w).2.kept = w.kept := by
  rw [Handler.handle]
  split
  · exact kept_write hq _ w
  · rfl

theorem kept_handleAll {hs : List Handler} (hq : ∀ h ∈ hs, h.sink.isQuiet = true) (time : Text)
    (r : Record) (w : Outlets) : (handleAll time r hs w).2.kept = w.kept := by
  induction hs generalizing w with
  | nil => rfl
  | cons h hs ih =>
      obtain ⟨hh, hhs⟩ := List.forall_mem_cons.1 hq
      rw [handleAll]
      exact (ih hhs _).trans (kept_handle hh time r w)

/-! ## Logging -/

/-- No handler of a logger writes to the output or to a file. -/
def IsQuiet (j : Journal) : Prop := ∀ n, ∀ h ∈ j.given n, h.sink.isQuiet = true

variable {j k : Journal}

theorem IsQuiet.of_given_eq (hj : j.IsQuiet) (h : ∀ n, k.given n = j.given n) : k.IsQuiet := by
  intro n
  rw [h n]
  exact hj n

theorem IsQuiet.handlers (hj : j.IsQuiet) {n : Text} {h : Handler}
    (hh : h ∈ (j.logger n).handlers) : h.sink.isQuiet = true := by
  have hgiven : h.asGiven ∈ j.given n := List.mem_map_of_mem hh
  rw [← isQuiet_asGiven]
  exact hj n h.asGiven hgiven

theorem kept_handleAt (hj : j.IsQuiet) (r : Record) (name : Text) :
    (handleAt r j name).outlets.kept = j.outlets.kept := by
  rw [handleAt]
  dsimp only
  rw [outlets_update]
  exact kept_handleAll (fun _ hh => hj.handlers hh) _ _ _

theorem kept_deliver (hj : j.IsQuiet) (name : Text) (r : Record) :
    (j.deliver name r).outlets.kept = j.outlets.kept := by
  have hfold : ∀ (names : List Text) (k : Journal), k.IsQuiet →
      (names.foldl (handleAt r) k).outlets.kept = k.outlets.kept := by
    intro names
    induction names with
    | nil => exact fun _ _ => rfl
    | cons name names ih =>
        intro k hk
        rw [List.foldl_cons, ih _ (hk.of_given_eq fun n => given_handleAt k r name n),
          kept_handleAt hk]
  rw [deliver]
  split
  · rw [lastResort]
    split <;> rfl
  · exact hfold _ j hj

theorem kept_log (hj : j.IsQuiet) (name : Text) (level : Level) (message : Text) :
    (j.log name level message).outlets.kept = j.outlets.kept := by
  let r : Record := ⟨name, level, message⟩
  have hreached : (j.reached r).IsQuiet := hj.of_given_eq fun n => given_reached j r n
  rw [← output_reached j r]
  show (if (j.reached r).takes name level then (j.reached r).deliver name (written r)
    else j.reached r).outlets.kept = _
  split
  · exact kept_deliver hreached _ _
  · rfl

theorem isQuiet_logNotes (hj : j.IsQuiet) (notes : List Note) : (j.logNotes notes).IsQuiet :=
  hj.of_given_eq fun n => given_logNotes j n notes

/-- What a quiet journal takes is seen neither on the output nor in a file. -/
theorem kept_logNotes (hj : j.IsQuiet) (notes : List Note) :
    (j.logNotes notes).outlets.kept = j.outlets.kept := by
  induction notes generalizing j with
  | nil => rfl
  | cons note notes ih =>
      have hlog : (j.log note.source note.level note.message).IsQuiet :=
        hj.of_given_eq fun n => given_log j _ n _ _
      rw [logNotes, List.foldl_cons]
      exact (ih hlog).trans (kept_log hj _ _ _)

/-! ## Setting up -/

theorem isQuiet_initial (time : Text) (s : Store) : (Journal.initial time s).IsQuiet := by
  intro n h hh
  have hnone : (Journal.initial time s).given n = [] := by
    rw [given, setting, logger, find?]
    split <;> rfl
  rw [hnone] at hh
  cases hh

theorem isQuiet_clearRoot (hj : j.IsQuiet) : j.clearRoot.IsQuiet := by
  intro n
  rw [given, setting_clearRoot]
  split
  · simp
  · exact hj n

theorem isQuiet_setup (hj : j.IsQuiet) (levelName : Text) (rich : Bool) :
    (j.setup levelName rich).journal.IsQuiet := by
  cases hlevel : setupLevel levelName with
  | error fault =>
      rw [setup, hlevel]
      exact isQuiet_clearRoot hj
  | ok level =>
      have hdone : (j.setup levelName rich).fault = none := by
        rw [setup, hlevel]
        rfl
      intro n
      rw [given_setup j hdone]
      split
      · cases rich <;> simp [setupHandler, Sink.isQuiet]
      · exact hj n

/-- A setup writes what it logs where its handler leads. -/
theorem kept_setup (hj : j.IsQuiet) (levelName : Text) (rich : Bool) :
    (j.setup levelName rich).journal.outlets.kept = j.outlets.kept := by
  have hquiet := isQuiet_setup hj levelName rich
  revert hquiet
  rw [setup]
  cases setupLevel levelName with
  | error fault => exact fun _ => rfl
  | ok level =>
      intro hquiet
      -- the loggers are given the same before and after the step itself is logged
      have hbefore := hquiet.of_given_eq fun n => (given_logNotes _ n _).symm
      refine (kept_logNotes hbefore _).trans ?_
      rw [addHandler, outlets_update, setLoggerLevel, forget]
      dsimp only
      rw [outlets_update, clearRoot]

end Prepress.Journal
