/-
# Steps of a command

Without a file for the journal a command logs nothing on the output and in no file (`exists_setUp`).
It then looks at its input, and goes on only where this is a file that holds a text
(`withInput_of_isText`, `withInput_of_interrupted`).
-/
import Prepress.Command.Run
import Prepress.Proofs.Command.Reading
import Prepress.Proofs.Files.Writing
import Prepress.Proofs.Journal.Quiet

namespace Prepress

open Text

/-! ## Reading a file -/

namespace Store

variable {s : Store} {p : Path} {t : Text}

theorem readText_of_isText (h : s.IsText p t) : s.readText p = .ok (normalizeNewlines t) := by
  obtain ⟨bytes, ⟨file, hfollow, rfl⟩, hdecode⟩ := h
  rw [readText, hfollow]
  dsimp only
  rw [hdecode]

theorem reaches_of_isText (h : s.IsText p t) : s.reaches p = .ok true := by
  obtain ⟨bytes, ⟨file, hfollow, rfl⟩, hdecode⟩ := h
  rw [reaches, hfollow]
  rfl

/-- Only a file that holds a text is read. -/
theorem exists_fault_of_not_isText (h : ∀ t, ¬ s.IsText p t) :
    ∃ fault, s.readText p = .error fault := by
  rw [readText]
  split
  · exact ⟨_, rfl⟩
  · exact ⟨_, rfl⟩
  · exact ⟨_, rfl⟩
  · next file hfollow =>
      cases hdecode : decodeText? (s.content file) with
      | none => exact ⟨_, rfl⟩
      | some t => exact absurd ⟨_, ⟨file, hfollow, rfl⟩, hdecode⟩ (h t)

end Store

namespace Command

open Journal

variable {s : Store} {j : Journal} {a : Arguments} {line : List Text}

/-! ## What a step leaves -/

/-- The journal after a step, also if it has been interrupted. -/
def left : Except Interruption Journal → Journal
  | .error interruption => interruption.journal
  | .ok j => j

theorem journal?_map (exit : Nat) (step : Except Interruption Journal) :
    Ending.journal? (step.map (.finished exit)) = some (left step) := by
  cases step <;> rfl

/-- A command whose step was interrupted ends like a command that fails. -/
theorem exitCode_map_one (step : Except Interruption Journal) :
    Ending.exitCode (step.map (.finished 1)) = 1 := by
  cases step <;> rfl

theorem exitCode_map_zero_eq_zero_iff (step : Except Interruption Journal) :
    Ending.exitCode (step.map (.finished 0)) = 0 ↔ ∃ k, step = .ok k := by
  cases step with
  | error interruption => simp [Except.map, Ending.exitCode]
  | ok k => simp [Except.map, Ending.exitCode]

/-- A line that is shown on the error output leaves the output and the files alone, and so does one
that cannot be shown. -/
theorem kept_announce (colour : String) (text : Text) (j : Journal) :
    (left (announce colour text j)).outlets.kept = j.outlets.kept := by
  rw [announce]
  split <;> rfl

theorem exists_announce_iff (colour : String) (text : Text) (j : Journal) :
    (∃ k, announce colour text j = .ok k) ↔
      ∃ shown, Console.styled colour.toList text = .ok shown := by
  rw [announce]
  split
  · next h => simp [h]
  · next h => simp [h]

/-! ## Setting up -/

/-- Without a file for it the journal is set up quietly. -/
theorem exists_setUp (ha : a.logFile = none) (time : Text) (s : Store) :
    ∃ j, setUp a (.initial time s) = .ok j ∧ j.IsQuiet ∧ j.outlets.kept = ([], s) := by
  have hquiet := isQuiet_initial time s
  refine ⟨_, ?_, isQuiet_setup hquiet a.level a.rich, kept_setup hquiet a.level a.rich⟩
  rw [setUp, ha]

/-- The task that a command line asks for is done with a quiet journal. -/
theorem exists_ending_eq {task : Task} (h : Asks line task) (now : Instant) (time : Text)
    (s : Store) :
    ∃ j, j.IsQuiet ∧ j.outlets.kept = ([], s) ∧
      ending now line (.initial time s)
        = match task with
          | .version => .ok (.finished 0 (j.print versionText))
          | .process input output dateFormat =>
            withInput input (fun path => process now path output dateFormat) j
          | .fields input json => withInput input (fun path => fields path json) j := by
  obtain ⟨a, hline, ha, htask⟩ := h
  obtain ⟨j, hj, hquiet, hkept⟩ := exists_setUp ha time s
  refine ⟨j, hquiet, hkept, ?_⟩
  rw [ending, hline]
  show perform now a _ = _
  rw [perform, hj, htask]
  cases task <;> rfl

/-! ## The input -/

section Input

variable {input : Text} {step : Path → Journal → Except Interruption Journal}

theorem readInput_of_isText {path : Path} {t : Text} (h : j.outlets.store.IsText path t) :
    readInput path j = .ok (normalizeNewlines t) := by
  rw [readInput, Store.readText_of_isText h]

/-- The task is done where the input is a file that holds a text. -/
theorem withInput_of_isText {t : Text} (h : j.outlets.store.IsText (.ofText input) t) :
    withInput input step j = (step (.ofText input) j).map (.finished 0) := by
  rw [withInput, Store.reaches_of_isText h]

/-- A task that is not done without its input: the command fails, whatever is in the place of the
input, and leaves what is left by the step that was interrupted. -/
theorem withInput_of_interrupted
    (hstep : ∃ interruption, step (.ofText input) j = .error interruption ∧
      interruption.journal.outlets.kept = j.outlets.kept) :
    ∃ k, (withInput input step j).journal? = some k ∧ k.outlets.kept = j.outlets.kept ∧
      (withInput input step j).exitCode = 1 := by
  rw [withInput]
  split
  · exact ⟨j, rfl, rfl, rfl⟩
  · obtain ⟨interruption, hstep, hkept⟩ := hstep
    rw [hstep]
    exact ⟨interruption.journal, rfl, hkept, rfl⟩
  · exact ⟨_, journal?_map 1 _, kept_announce _ _ j, exitCode_map_one _⟩

end Input

end Command

end Prepress
