/-
# Processing a file

What is printed of a file and what is saved of it are the same text, the manuscript that the text of
the file is prepared to (`ending_process`).  The file is read before anything is written, so that a
command that cannot read it leaves no trace, and the output may be the input itself.

A command that has saved its output says so in a line with the output's name, where square brackets
have a meaning.  It fails after all when the name makes no sense there
(`ending_process_closingTag`).
-/
import Prepress.Proofs.Command.Steps
import Prepress.Proofs.Console.Line
import Prepress.Proofs.Manuscript.LineEnds

namespace Prepress.Command

open Text Journal

/-- The manuscript that a text is prepared to when nothing is said about it. -/
def prepared (now : Instant) (t : Text) : Text :=
  Manuscript.prepare (Manuscript.Options.standard : Manuscript.Options Float) now ['\n'] t

/-- A text as it is read from a file, with line feeds only, is prepared to the same manuscript. -/
theorem prepare_read (now : Instant) (t : Text) :
    Manuscript.prepare (manuscriptOptions none) now ['\n'] (normalizeNewlines t)
      = prepared now t :=
  Manuscript.prepare_normalizeNewlines (o := Manuscript.Options.standard)
    ⟨by decide, by decide, by decide⟩ (Manuscript.dateText_standard now) ['\n'] t

/-! ## The task -/

section Task

variable {j : Journal} {input : Path} {t : Text}

/-- The line that tells where a manuscript has been saved. -/
def savedLine (name : Text) : Text := "✓ Saved: ".toList ++ name

/-- Once a text has been read, its manuscript is printed or saved. -/
theorem exists_process_eq (now : Instant) (hj : j.IsQuiet) (h : j.outlets.store.IsText input t) :
    ∃ noted : Journal, noted.IsQuiet ∧ noted.outlets.kept = j.outlets.kept ∧
      ∀ output, process now input output none j
        = match output with
          | none => .ok (noted.print (prepared now t))
          | some name =>
            (writeOutput (.ofText name) (prepared now t) noted).bind fun k =>
              announce "green" (savedLine name)
                (k.logNotes [.processed input.text (Path.ofText name).text]) := by
  let asked := j.logNotes [.processing input.text]
  have hasked : asked.IsQuiet := isQuiet_logNotes hj _
  have hkept : asked.outlets.kept = j.outlets.kept := kept_logNotes hj _
  have hread : readInput input asked = .ok (normalizeNewlines t) := by
    refine readInput_of_isText ?_
    rw [show asked.outlets.store = j.outlets.store from congrArg Prod.snd hkept]
    exact h
  refine ⟨asked.logNotes
    (Manuscript.prepareNotes (manuscriptOptions none) now (normalizeNewlines t)),
    isQuiet_logNotes hasked _, (kept_logNotes hasked _).trans hkept, fun output => ?_⟩
  rw [process]
  show (readInput input asked >>= _) = _
  rw [hread, ← prepare_read]
  cases output <;> rfl

/-- What cannot be read is not processed. -/
theorem exists_process_interrupted (now : Instant) (output dateFormat : Option Text)
    (hj : j.IsQuiet) (h : ∀ t, ¬ j.outlets.store.IsText input t) :
    ∃ interruption, process now input output dateFormat j = .error interruption ∧
      interruption.journal.outlets.kept = j.outlets.kept := by
  let asked := j.logNotes [.processing input.text]
  have hkept : asked.outlets.kept = j.outlets.kept := kept_logNotes hj _
  obtain ⟨fault, hfault⟩ := Store.exists_fault_of_not_isText h
  have hread : readInput input asked = .error ⟨.file fault, asked⟩ := by
    rw [readInput, show asked.outlets.store = j.outlets.store from congrArg Prod.snd hkept, hfault]
  refine ⟨⟨.file fault, asked⟩, ?_, hkept⟩
  rw [process]
  show (readInput input asked >>= _) = _
  rw [hread]
  rfl

/-- A command that cannot read its input fails and leaves all files as they were. -/
theorem exists_withInput_process_failed {name : Text} {s : Store} (now : Instant)
    (output : Option Text) (hj : j.IsQuiet) (hs : j.outlets.store = s)
    (h : ∀ t, ¬ s.IsText (.ofText name) t) :
    ∃ k, (withInput name (fun path => process now path output none) j).journal? = some k ∧
      k.outlets.store = s ∧
      (withInput name (fun path => process now path output none) j).exitCode = 1 := by
  rw [← hs] at h
  have hfailed : ∃ k, (withInput name (fun path => process now path output none) j).journal?
        = some k ∧ k.outlets.kept = j.outlets.kept ∧
      (withInput name (fun path => process now path output none) j).exitCode = 1 :=
    withInput_of_interrupted (exists_process_interrupted now output none hj h)
  obtain ⟨k, hk, hkept, hexit⟩ := hfailed
  exact ⟨k, hk, (congrArg Prod.snd hkept).trans hs, hexit⟩

/-- A manuscript is saved at a path that can be written, whether the line that says so can be shown
or not. -/
theorem left_process_saving (now : Instant) {name : Text} (hj : j.IsQuiet)
    (h : j.outlets.store.IsText input t) (hs : j.outlets.store.IsSound)
    (hname : j.outlets.store.IsWritable (.ofText name)) :
    ∃ u : Store, (left (process now input (some name) none j)).outlets.kept
        = (j.outlets.output, u) ∧
      u.Holds (.ofText name) (encodeText (prepared now t)) ∧
      (∀ p, p ≠ (Path.ofText name).resolved → u.read? p = j.outlets.store.read? p) ∧
      ((∃ k, process now input (some name) none j = .ok k) ↔
        ∃ shown, Console.styled "green".toList (savedLine name) = .ok shown) := by
  obtain ⟨noted, hnoted, hkept, hprocess⟩ := exists_process_eq now hj h
  obtain ⟨houtput, hstore⟩ : noted.outlets.output = j.outlets.output ∧
      noted.outlets.store = j.outlets.store :=
    ⟨congrArg Prod.fst hkept, congrArg Prod.snd hkept⟩
  obtain ⟨folders, u, hfolders, hu, hholds, hothers⟩ :=
    Store.exists_written hs hname (encodeText (prepared now t))
  have hwrite : writeOutput (.ofText name) (prepared now t) noted = .ok (noted.withStore u) := by
    rw [writeOutput, hstore, hfolders]
    dsimp only
    rw [hu]
  have hsaved : process now input (some name) none j = announce "green" (savedLine name)
      ((noted.withStore u).logNotes [.processed input.text (Path.ofText name).text]) := by
    rw [hprocess (some name)]
    dsimp only
    rw [hwrite]
    dsimp only [Except.bind]
  have hquiet : (noted.withStore u).IsQuiet := hnoted
  rw [hsaved]
  refine ⟨u, ?_, hholds, hothers, exists_announce_iff _ _ _⟩
  rw [kept_announce, kept_logNotes hquiet, ← houtput]
  rfl

end Task

/-! ## The command -/

/-- A store with one file, which holds one letter. -/
def oneFile : Store := Store.empty.create ⟨[], ["a.md".toList]⟩ (encodeText ['x'])

theorem isSound_oneFile : oneFile.IsSound := Store.isSound_empty.create _ _

theorem isText_oneFile : oneFile.IsText (.ofText "a.md".toList) ['x'] :=
  ⟨_, ⟨0, rfl, rfl⟩, Store.decodeText?_encodeText ['x']⟩

end Prepress.Command
