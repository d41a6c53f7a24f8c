/-
# Calls

A program sets up its journal by calls, one after the other (`Call`).  What a call does to the
loggers is said once for each of the five:

* `setting_configure`, `setting_setLevel`, `setting_getLogger`, `setting_addFile` : the settings
  after a call that succeeds;
* `given_setup` : a setup is logged, so handlers are told only as they were given.
-/
import Prepress.Proofs.Files.Opening
import Prepress.Proofs.Journal.Loggers

namespace Prepress.Journal

open Text

/-! ## Calls -/

/-- A call that sets up a journal. -/
inductive Call where
  | configure (levelName pattern file : Text) (maxBytes backups : Int)
  | setLevel (levelName : Text)
  | getLogger (name : Option Text)
  | addFile (name : Option Text) (options : FileOptions)
  | setup (levelName : Text) (rich : Bool)

/-- What a call does to a journal. -/
def Call.run (j : Journal) : Call → Step
  | .configure levelName pattern file maxBytes backups =>
    j.configure levelName pattern file maxBytes backups
  | .setLevel levelName => j.setLevel levelName
  | .getLogger name => j.getLogger name
  | .addFile name options => j.addFile name options
  | .setup levelName rich => j.setup levelName rich

/-- A journal at its beginning, without files. -/
def fresh : Journal := .initial "2025-01-15 09:30:00".toList .empty

/-- The journal after calls that all succeed. -/
def runAll (j : Journal) : List Call → Option Journal
  | [] => some j
  | c :: cs =>
    match c.run j with
    | ⟨k, none⟩ => k.runAll cs
    | ⟨_, some _⟩ => none

theorem runAll_append (j : Journal) (cs ds : List Call) :
    j.runAll (cs ++ ds) = (j.runAll cs).bind fun k => k.runAll ds := by
  induction cs generalizing j with
  | nil => rfl
  | cons c cs ih =>
      rw [List.cons_append, runAll, runAll]
      split
      · exact ih _
      · rfl

/-- The first of some calls that all succeed succeeds. -/
theorem runAll_cons {j k : Journal} {c : Call} {cs : List Call}
    (h : j.runAll (c :: cs) = some k) :
    (c.run j).fault = none ∧ (c.run j).journal.runAll cs = some k := by
  rw [runAll] at h
  split at h
  · next hrun =>
      rw [hrun]
      exact ⟨rfl, h⟩
  · cases h

/-! ## Adding a file -/

section AddFile

variable (j : Journal)

/-- Opening a file changes the store only. -/
theorem openFile_fst (written : Text) :
    (j.openFile written).1 = j.withStore (j.outlets.store.opened written) := by
  rw [openFile, Store.opened]
  cases j.outlets.store.makeFolder (Path.folderOf written) with
  | mk store fault =>
      cases fault with
      | some fault => rfl
      | none =>
          dsimp only
          cases store.openForAppending (Path.ofText written).resolved with
          | error fault => rfl
          | ok opened => rfl

theorem outlets_enter (name : Text) : (j.enter name).outlets = j.outlets := by
  rw [enter]
  split <;> rfl

/-- The store after a file has been added to what is given for a logger: the path is opened unless
it is missing or empty. -/
def storeWithFile (s : Store) : (name path : Option Text) → Store
  | some _, some (c :: written) => s.opened (c :: written)
  | _, _ => s

theorem adds_storeWithFile (s : Store) (name path : Option Text) :
    s.Adds (storeWithFile s name path) := by
  unfold storeWithFile
  split
  · exact s.adds_opened _
  · exact Store.Adds.refl s

/-- Adding a file either fails, when a path has been opened at most, or it gives a logger one more
handler. -/
theorem addFile_cases (name : Option Text) (o : FileOptions) :
    ∃ k : Journal, (∀ n, k.setting n = j.setting n) ∧
      k.outlets.store = storeWithFile j.outlets.store name o.path ∧
      ((∃ fault, j.addFile name o = .failed k fault) ∨
        ∃ logger, name = some logger ∧ k.IsEntered logger ∧
          ∃ handler : Handler, handler.sink.isConsole = false ∧
            j.addFile name o = .done (k.addHandler logger handler)) := by
  obtain ⟨path, levelName, pattern, maxBytes, backups⟩ := o
  match name, path with
  | none, _ => exact ⟨j, fun _ => rfl, rfl, Or.inl ⟨_, rfl⟩⟩
  | some name, none | some name, some [] =>
      have hstore : (j.enter name).outlets.store = j.outlets.store := by rw [outlets_enter]
      exact ⟨j.enter name, j.setting_enter name, hstore, Or.inl ⟨_, rfl⟩⟩
  | some name, some (c :: written) =>
      -- from here on the path is opened, whether the level is known or not
      have hfst := (j.enter name).openFile_fst (c :: written)
      refine ⟨((j.enter name).openFile (c :: written)).1, ?_, ?_, ?_⟩
      · intro n
        rw [hfst]
        exact j.setting_enter name n
      · rw [hfst, outlets_enter]
        rfl
      · cases hopen : (j.enter name).openFile (c :: written) with
        | mk k outcome =>
            cases outcome with
            | error fault => exact Or.inl ⟨.file fault, by simp only [addFile, hopen]⟩
            | ok stream =>
                cases hlevel : levelNamed? levelName with
                | none =>
                    exact Or.inl ⟨.invalidLevel levelName, by simp only [addFile, hopen, hlevel]⟩
                | some level =>
                    have hentered : k.IsEntered name := by
                      rw [hopen] at hfst
                      rw [show k = _ from hfst]
                      exact j.isEntered_enter name
                    exact Or.inr ⟨name, rfl, hentered, ⟨.file (Path.ofText (c :: written)).resolved
                      maxBytes backups stream, level, pattern⟩, rfl,
                      by simp only [addFile, hopen, hlevel]⟩

end AddFile

/-! ## Settings after a call -/

/-- The pattern that a configuration asks for; the empty text asks for the standard one. -/
def configuredPattern? (pattern : Text) : Option Pattern :=
  if pattern.isEmpty then some .standard else Pattern.of? pattern

section Settings

variable (j : Journal) {n : Text}

/-- The root set anew, with a handler for the output. -/
def printing (j : Journal) (level : Level) (pattern : Pattern) : Journal :=
  (j.setLoggerLevel rootName level).clearRoot.addHandler rootName ⟨.output, level, pattern⟩

theorem setting_cleared (level : Level) :
    (j.setLoggerLevel rootName level).clearRoot.setting n
      = if isRootName n then (level, []) else j.setting n := by
  rw [setting_clearRoot, setting_setLoggerLevel n j.isEntered_rootName]
  simp only [sameLogger_rootName]
  split <;> rfl

theorem setting_printing (level : Level) (pattern : Pattern) :
    (j.printing level pattern).setting n
      = if isRootName n then (level, [⟨.output, level, pattern⟩]) else j.setting n := by
  rw [printing, setting_addHandler n (isEntered_rootName _), setting_cleared]
  simp only [sameLogger_rootName]
  split <;> rfl

/-- A file is added to the logger that is given, as its last handler. -/
theorem setting_addFile {name : Option Text} {o : FileOptions}
    (h : (j.addFile name o).fault = none) :
    ∃ logger, name = some logger ∧ ∃ handler : Handler, handler.sink.isConsole = false ∧
      ∀ n, (j.addFile name o).journal.setting n
        = if SameLogger n logger then ((j.setting n).1, (j.setting n).2 ++ [handler])
          else j.setting n := by
  obtain ⟨k, hsetting, -, ⟨fault, hfailed⟩ | ⟨logger, hname, hentered, f, hf, hdone⟩⟩ :=
    j.addFile_cases name o
  · rw [hfailed] at h
    cases h
  · refine ⟨logger, hname, f, hf, fun n => ?_⟩
    rw [hdone, Step.done, setting_addHandler n hentered, hsetting]

/-- A configuration of a known level sets the root anew before it looks at anything else. -/
theorem configure_eq {levelName pattern file : Text} {maxBytes backups : Int} {level : Level}
    (h : levelNamed? levelName = some level) :
    j.configure levelName pattern file maxBytes backups
      = match configuredPattern? pattern with
        | none =>
          .failed (j.setLoggerLevel rootName level).clearRoot (.invalidPattern pattern)
        | some p =>
          if file.isEmpty then .done (j.printing level p)
          else (j.printing level p).addFile (some rootName)
            ⟨some file, levelName, p, maxBytes, backups⟩ := by
  rw [configure, h]
  rfl

/-- A configuration sets the root's level and puts a handler for the output, and perhaps a file, in
the place of its handlers. -/
theorem setting_configure {levelName pattern file : Text} {maxBytes backups : Int}
    (h : (j.configure levelName pattern file maxBytes backups).fault = none) :
    ∃ level p, levelNamed? levelName = some level ∧ configuredPattern? pattern = some p ∧
      ∃ files : List Handler, (∀ f ∈ files, f.sink.isConsole = false) ∧
        ∀ n, (j.configure levelName pattern file maxBytes backups).journal.setting n
          = if isRootName n then (level, ⟨.output, level, p⟩ :: files) else j.setting n := by
  cases hlevel : levelNamed? levelName with
  | none =>
      rw [configure, hlevel] at h
      cases h
  | some level =>
      revert h
      rw [configure_eq j hlevel]
      cases configuredPattern? pattern with
      | none =>
          intro h
          cases h
      | some p =>
          dsimp only
          split
          · intro _
            exact ⟨level, p, rfl, rfl, [], by simp, fun n => j.setting_printing level p⟩
          · intro h
            obtain ⟨logger, hlogger, f, hf, hsetting⟩ := setting_addFile _ h
            refine ⟨level, p, rfl, rfl, [f], by simpa using hf, fun n => ?_⟩
            rw [hsetting, ← Option.some.inj hlogger, setting_printing]
            simp only [sameLogger_rootName]
            split <;> rfl

/-- The level of the root and of its handlers is set. -/
theorem setting_setLevel {levelName : Text} (h : (j.setLevel levelName).fault = none) :
    ∃ level, ∀ n, (j.setLevel levelName).journal.setting n
      = if isRootName n then (level, (j.setting n).2.map fun handler => { handler with level })
        else j.setting n := by
  revert h
  rw [setLevel]
  split
  · intro h
    cases h
  · next level _ =>
      intro _
      refine ⟨level, fun n => ?_⟩
      have hentered := (j.setLoggerLevel rootName level).isEntered_rootName
      rw [Step.done, setting_update n
          (f := fun s => (s.1, s.2.map fun handler : Handler => { handler with level }))
          (fun _ => rfl) hentered,
        setting_setLoggerLevel n j.isEntered_rootName]
      simp only [sameLogger_rootName]
      split <;> rfl

/-- A logger without handlers is given one for the output. -/
theorem setting_getLogger {name : Option Text} (h : (j.getLogger name).fault = none) :
    ∃ logger, name = some logger ∧
      ∀ n, (j.getLogger name).journal.setting n
        = if SameLogger n logger ∧ (j.setting logger).2 = [] then
            (.info, [⟨.output, .info, .standard⟩])
          else j.setting n := by
  revert h
  rw [getLogger.eq_def]
  split
  · intro h
    cases h
  · intro h
    cases h
  · next name _ =>
      intro _
      have hentered := j.isEntered_enter name
      have hhandlers : ((j.enter name).logger name).handlers = (j.setting name).2 := by
        rw [← setting_enter j name name]
        rfl
      refine ⟨name, rfl, fun n => ?_⟩
      dsimp only
      rw [hhandlers]
      split
      · next he =>
          have hnone : (j.setting name).2 = [] := List.isEmpty_iff.1 he
          have hlevelled : ((j.enter name).setLoggerLevel name .info).IsEntered name :=
            isEntered_forget _ (isEntered_update _ hentered)
          rw [Step.done, setting_addHandler n hlevelled, setting_setLoggerLevel n hentered,
            setting_enter]
          by_cases hn : SameLogger n name
          · rw [if_pos hn, if_pos hn, if_pos ⟨hn, hnone⟩, setting_of_sameLogger j hn, hnone]
            rfl
          · rw [if_neg hn, if_neg hn, if_neg fun h => hn h.1]
      · next he =>
          rw [if_neg fun h => he (List.isEmpty_iff.2 h.2)]
          exact setting_enter j name n

/-- The handler that a setup gives to the root. -/
def setupHandler (rich : Bool) : Handler :=
  if rich then ⟨.display, .unset, .messageOnly⟩ else ⟨.errorOutput, .unset, .standard⟩

/-- A setup puts a display, or a handler for the error output, in the place of the root's
handlers. -/
theorem given_setup {levelName : Text} {rich : Bool} (h : (j.setup levelName rich).fault = none) :
    (j.setup levelName rich).journal.given n
      = if isRootName n then [setupHandler rich] else j.given n := by
  revert h
  rw [setup]
  split
  · intro h
    cases h
  · next level _ =>
      intro _
      have hroot := isEntered_rootName
      rw [Step.done, given_logNotes, given, setting_addHandler n (hroot _),
        setting_setLoggerLevel n (hroot _), setting_clearRoot, given]
      simp only [sameLogger_rootName]
      split
      · cases rich <;> rfl
      · rfl

end Settings

end Prepress.Journal
