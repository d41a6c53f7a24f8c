/-
# Handlers for consoles

However often and in whatever order a journal is set up, no logger has two handlers that write to
a console, so nothing is printed twice by one logger.  A configuration and a setup put a handler of
their own in the place of all handlers of the root (`given_install`).  Any other call gives a
logger one more handler at most, and one for a console only where there is no handler at all
(`handed_run`), or it sets the level of the root's handlers.  What this means for a whole sequence
of calls is `runAll_consoles`.
-/
import Prepress.Proofs.Journal.Calls

namespace Prepress.Journal

open Text
open scoped List

/-! ## Consoles -/

/-- The handlers that write to a console. -/
def consolesAmong (hs : List Handler) : List Handler := hs.filter fun h => h.sink.isConsole

/-- The handlers of the logger of a name that write to a console. -/
def consoles (j : Journal) (name : Text) : List Handler := consolesAmong (j.logger name).handlers

theorem isConsole_asGiven (h : Handler) : h.asGiven.sink.isConsole = h.sink.isConsole := by
  rw [Handler.asGiven]
  cases h.sink <;> rfl

/-- Only handlers for files change while they are used. -/
theorem asGiven_of_isConsole {h : Handler} (hc : h.sink.isConsole = true) : h.asGiven = h := by
  obtain ⟨sink, level, pattern⟩ := h
  cases sink with
  | file path maxBytes backups stream => cases hc
  | output | errorOutput | display => rfl

theorem consolesAmong_given (j : Journal) (name : Text) :
    consolesAmong (j.given name) = j.consoles name := by
  rw [consoles, given, consolesAmong, consolesAmong, List.filter_map]
  have hcomp : (fun h : Handler => h.sink.isConsole) ∘ Handler.asGiven
      = fun h => h.sink.isConsole := funext isConsole_asGiven
  have hid : ∀ h ∈ (j.setting name).2.filter (fun h => h.sink.isConsole), h.asGiven = id h :=
    fun h hh => asGiven_of_isConsole (List.mem_filter.1 hh).2
  rw [hcomp, List.map_congr_left hid, List.map_id]
  rfl

theorem consolesAmong_cons {h : Handler} (hc : h.sink.isConsole = true) (hs : List Handler) :
    consolesAmong (h :: hs) = h :: consolesAmong hs :=
  List.filter_cons_of_pos (p := fun h : Handler => h.sink.isConsole) hc

theorem consolesAmong_eq_nil {hs : List Handler} (hf : ∀ h ∈ hs, h.sink.isConsole = false) :
    consolesAmong hs = [] := by
  rw [consolesAmong, List.filter_eq_nil_iff]
  intro h hh
  rw [hf h hh]
  simp

theorem consolesAmong_concat {h : Handler} (hf : h.sink.isConsole = false) (hs : List Handler) :
    consolesAmong (hs ++ [h]) = consolesAmong hs := by
  have hnone : consolesAmong [h] = [] := consolesAmong_eq_nil (by simpa using hf)
  rw [consolesAmong] at hnone
  rw [consolesAmong, List.filter_append, hnone, List.append_nil, consolesAmong]

/-! ## One call -/

/-- A call that puts handlers of its own in the place of those of the root. -/
def Call.installs : Call → Bool
  | .configure .. | .setup .. => true
  | .setLevel _ | .getLogger _ | .addFile .. => false

/-- The handler for a console that a call puts in the place of those of the root. -/
def Call.console? : Call → Option Handler
  | .configure levelName pattern _ _ _ =>
    (levelNamed? levelName).bind fun level =>
      (configuredPattern? pattern).map fun p => ⟨.output, level, p⟩
  | .setup _ rich => some (setupHandler rich)
  | .setLevel _ | .getLogger _ | .addFile .. => none

/-- The handlers of a logger before and after a call that does not take them away: there may be a
new one, for a console only if there was none before. -/
inductive Handed : List Handler → List Handler → Prop
  | kept (hs : List Handler) : Handed hs hs
  | console {h : Handler} (hc : h.sink.isConsole = true) : Handed [] [h]
  | file (hs : List Handler) {h : Handler} (hf : h.sink.isConsole = false) : Handed hs (hs ++ [h])

theorem Handed.isPrefix {hs ks : List Handler} (h : Handed hs ks) : hs <+: ks := by
  cases h with
  | kept => exact List.prefix_rfl
  | console hc => exact List.nil_prefix
  | file _ hf => exact List.prefix_append _ _

/-- A handler for a console comes only where there is none. -/
theorem Handed.consolesAmong_eq {hs ks : List Handler} (h : Handed hs ks) :
    consolesAmong ks = consolesAmong hs ∨
      (consolesAmong hs = [] ∧ (consolesAmong ks).length = 1) := by
  cases h with
  | kept => exact Or.inl rfl
  | @console h hc =>
      refine Or.inr ⟨rfl, ?_⟩
      rw [consolesAmong_cons hc]
      rfl
  | file _ hf => exact Or.inl (consolesAmong_concat hf hs)

/-- Handlers with another level. -/
def levelled (level : Level) (hs : List Handler) : List Handler :=
  hs.map fun h => { h with level }

theorem consolesAmong_levelled (level : Level) (hs : List Handler) :
    consolesAmong (levelled level hs) = levelled level (consolesAmong hs) := by
  rw [levelled, consolesAmong, List.filter_map]
  rfl

section OneCall

variable {j : Journal} {c : Call}

/-- A call that puts handlers in the place of those of the root gives it one for a console, first of
all, and leaves the other loggers alone. -/
theorem given_install (h : (c.run j).fault = none) (hc : c.installs = true) :
    ∃ handler files, c.console? = some handler ∧ handler.sink.isConsole = true ∧
      (∀ f ∈ files, f.sink.isConsole = false) ∧
      ∀ n, (c.run j).journal.given n = if isRootName n then handler :: files else j.given n := by
  cases c with
  | configure levelName pattern file maxBytes backups =>
      obtain ⟨level, p, hlevel, hp, files, hfiles, hsetting⟩ := setting_configure j h
      refine ⟨⟨.output, level, p⟩, files.map Handler.asGiven, ?_, rfl, ?_, ?_⟩
      · rw [Call.console?, hlevel, hp]
        rfl
      · intro f hf
        obtain ⟨g, hg, rfl⟩ := List.mem_map.1 hf
        rw [isConsole_asGiven, hfiles g hg]
      · intro n
        rw [given, Call.run, hsetting]
        split <;> rfl
  | setup levelName rich =>
      refine ⟨setupHandler rich, [], rfl, by cases rich <;> rfl, by simp, ?_⟩
      exact fun n => given_setup j h
  | setLevel _ | getLogger _ | addFile _ _ => cases hc

/-- Any other call gives a logger one more handler at most, or it sets the level of the root's
handlers. -/
theorem handed_run (h : (c.run j).fault = none) (hc : c.installs = false) (n : Text) :
    Handed (j.given n) ((c.run j).journal.given n) ∨
      (isRootName n = true ∧
        ∃ level, (c.run j).journal.given n = levelled level (j.given n)) := by
  cases c with
  | setLevel levelName =>
      obtain ⟨level, hsetting⟩ := setting_setLevel j h
      rw [given, given, Call.run, hsetting]
      cases hn : isRootName n with
      | true =>
          refine Or.inr ⟨rfl, level, ?_⟩
          rw [if_pos rfl, levelled, List.map_map, List.map_map]
          rfl
      | false =>
          rw [if_neg (by simp)]
          exact Or.inl (.kept _)
  | getLogger name =>
      obtain ⟨logger, -, hsetting⟩ := setting_getLogger j h
      left
      rw [given, given, Call.run, hsetting]
      split
      · next hn =>
          rw [setting_of_sameLogger j hn.1, hn.2]
          exact .console rfl
      · exact .kept _
  | addFile name o =>
      obtain ⟨logger, -, f, hf, hsetting⟩ := setting_addFile j h
      left
      rw [given, given, Call.run, hsetting]
      split
      · rw [List.map_append, List.map_singleton]
        exact .file _ (by rw [isConsole_asGiven, hf])
      · exact .kept _
  | configure _ _ _ _ _ | setup _ _ => cases hc

/-- No call gives a logger a second handler for a console. -/
theorem length_consoles_run (h : (c.run j).fault = none)
    (hj : ∀ n, (j.consoles n).length ≤ 1) (n : Text) :
    ((c.run j).journal.consoles n).length ≤ 1 := by
  have hn := hj n
  rw [← consolesAmong_given] at hn ⊢
  cases hc : c.installs with
  | true =>
      obtain ⟨handler, files, -, hhandler, hfiles, hgiven⟩ := given_install h hc
      rw [hgiven]
      split
      · rw [consolesAmong_cons hhandler, consolesAmong_eq_nil hfiles]
        exact Nat.le_refl 1
      · exact hn
  | false =>
      rcases handed_run h hc n with hhanded | ⟨-, level, hlevel⟩
      · rcases hhanded.consolesAmong_eq with he | ⟨-, he⟩
        · rw [he]
          exact hn
        · exact Nat.le_of_eq he
      · rw [hlevel, consolesAmong_levelled, levelled, List.length_map]
        exact hn

/-- No call takes a handler from a logger that is not the root. -/
theorem given_isPrefix_run (h : (c.run j).fault = none) {n : Text} (hn : isRootName n = false) :
    j.given n <+: (c.run j).journal.given n := by
  cases hc : c.installs with
  | true =>
      obtain ⟨handler, files, -, -, -, hgiven⟩ := given_install h hc
      have hkept : (c.run j).journal.given n = j.given n := by
        rw [hgiven, hn, if_neg (by simp)]
      exact hkept ▸ List.prefix_rfl
  | false =>
      rcases handed_run h hc n with hhanded | ⟨hroot, -⟩
      · exact hhanded.isPrefix
      · rw [hn] at hroot
        cases hroot

/-- The root's handler for a console stays what it is, with a level that may be set. -/
theorem consoles_root_run (h : (c.run j).fault = none) (hc : c.installs = false)
    {handler : Handler} (hj : ∃ level, j.consoles rootName = [{ handler with level }]) :
    ∃ level, (c.run j).journal.consoles rootName = [{ handler with level }] := by
  obtain ⟨level, hlevel⟩ := hj
  rw [← consolesAmong_given] at hlevel
  rcases handed_run h hc rootName with hhanded | ⟨-, level', hlevel'⟩
  · rcases hhanded.consolesAmong_eq with he | ⟨he, -⟩
    · refine ⟨level, ?_⟩
      rw [← consolesAmong_given, he, hlevel]
    · -- the root has handlers, so it is given none for a console
      rw [he] at hlevel
      cases hlevel
  · refine ⟨level', ?_⟩
    rw [← consolesAmong_given, hlevel', consolesAmong_levelled, hlevel]
    rfl

end OneCall

/-! ## Many calls -/

section ManyCalls

variable {j k : Journal} {calls : List Call}

theorem length_consoles_runAll (h : j.runAll calls = some k)
    (hj : ∀ n, (j.consoles n).length ≤ 1) (n : Text) : (k.consoles n).length ≤ 1 := by
  induction calls generalizing j with
  | nil =>
      cases h
      exact hj n
  | cons c calls ih =>
      obtain ⟨hc, hcalls⟩ := runAll_cons h
      exact ih hcalls (length_consoles_run hc hj)

theorem given_isPrefix_runAll (h : j.runAll calls = some k) {n : Text}
    (hn : isRootName n = false) : j.given n <+: k.given n := by
  induction calls generalizing j with
  | nil =>
      cases h
      exact List.prefix_rfl
  | cons c calls ih =>
      obtain ⟨hc, hcalls⟩ := runAll_cons h
      exact (given_isPrefix_run hc hn).trans (ih hcalls)

theorem consoles_root_runAll (h : j.runAll calls = some k)
    (hcalls : ∀ c ∈ calls, c.installs = false) {handler : Handler}
    (hj : ∃ level, j.consoles rootName = [{ handler with level }]) :
    ∃ level, k.consoles rootName = [{ handler with level }] := by
  induction calls generalizing j with
  | nil =>
      cases h
      exact hj
  | cons c calls ih =>
      obtain ⟨hc, hrest⟩ := runAll_cons h
      rw [List.forall_mem_cons] at hcalls
      exact ih hrest hcalls.2 (consoles_root_run hc hcalls.1 hj)

/-- A handler that a call puts in the place of the root's is the root's only one for a console. -/
theorem consoles_root_install {c : Call} (h : (c.run j).fault = none) (hc : c.installs = true) :
    ∃ handler, c.console? = some handler ∧
      (c.run j).journal.consoles rootName = [handler] := by
  obtain ⟨handler, files, hconsole, hh, hfiles, hgiven⟩ := given_install h hc
  have hroot : (c.run j).journal.given rootName = handler :: files := hgiven rootName
  refine ⟨handler, hconsole, ?_⟩
  rw [← consolesAmong_given, hroot, consolesAmong_cons hh, consolesAmong_eq_nil hfiles]

/-- Loggers are asked for, the root is configured with a file and set up, a file is added to a
logger, and then the root is configured again, asked for as a logger, and given another level. -/
def mixedCalls : List Call :=
  [.getLogger (some "app".toList), .getLogger (some "root".toList),
    .configure "info".toList [] "logs/run.log".toList 40 2, .setup "DEBUG".toList false,
    .addFile (some "app".toList) ⟨some "app.log".toList, "ERROR".toList, .standard, 0, 0⟩,
    .configure "DEBUG".toList "%(message)s".toList [] 0 0, .getLogger (some "root".toList),
    .setLevel "ERROR".toList]

end ManyCalls

end Prepress.Journal
