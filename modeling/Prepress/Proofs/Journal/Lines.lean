/-
# Lines on the output

A record goes to the handlers of its logger and of the loggers above, so a line of it is written to
the output for each of these loggers that prints it (`output_log`).  Calls that configure the root,
set its level or ask for loggers give no logger a second handler for the output, but a logger and one
above it may both have one (`printers_runAll`).  So no logger prints a record twice, and a record is
written twice when two loggers print it:

* `output_runAll` : what is written of a record after such calls, and when it is one line at most;
* `output_twoPrinters` : a logger that has been asked for and a root that has been configured both
  print a record.
-/
import Prepress.Proofs.Journal.Consoles
import Prepress.Proofs.Journal.Places

namespace Prepress.Journal

open Text

/-! ## Printing -/

/-- Whether a handler writes to the output. -/
def Handler.isPrinter (h : Handler) : Bool := h.sink = .output

/-- Whether a handler lets records of a level pass. -/
def Handler.admits (level : Level) (h : Handler) : Bool := level.passes h.level

/-- The handlers of the logger of a name that write to the output. -/
def printers (j : Journal) (name : Text) : List Handler :=
  (j.logger name).handlers.filter Handler.isPrinter

/-- Whether the logger of a name has a handler that writes records of a level to the output. -/
def prints (j : Journal) (level : Level) (name : Text) : Bool :=
  (j.printers name).any (Handler.admits level)

/-- The lines of a record that the handlers of a logger write to the output. -/
def linesAt (j : Journal) (r : Record) (name : Text) : List Text :=
  ((j.printers name).filter (Handler.admits r.level)).map fun h => h.pattern.line j.time r

section Printing

variable {j : Journal} {r : Record} {name n : Text}

theorem printers_eq_consoles (j : Journal) (name : Text) :
    j.printers name = (j.consoles name).filter Handler.isPrinter := by
  rw [printers, consoles, consolesAmong, List.filter_filter]
  congr 1
  funext h
  rw [Handler.isPrinter]
  cases hs : h.sink <;> simp [Sink.isConsole]

/-- Handlers that are the same as they were given print the same. -/
theorem printers_eq_of_given_eq {k : Journal} (h : k.given n = j.given n) :
    k.printers n = j.printers n := by
  rw [printers_eq_consoles, printers_eq_consoles, ← consolesAmong_given, h, consolesAmong_given]

theorem printers_handleAt (r : Record) (j : Journal) (name n : Text) :
    (handleAt r j name).printers n = j.printers n :=
  printers_eq_of_given_eq (given_handleAt j r name n)

theorem printers_log (j : Journal) (name n : Text) (level : Level) (message : Text) :
    (j.log name level message).printers n = j.printers n :=
  printers_eq_of_given_eq (given_log j name n level message)

/-- A handler writes the line of a record to the output if that is its sink and the record passes. -/
theorem output_handle (time : Text) (r : Record) (h : Handler) (w : Outlets) :
    (h.handle time r w).2.output
      = w.output ++ if h.isPrinter = true ∧ h.admits r.level = true then h.pattern.line time r
        else [] := by
  unfold Handler.handle
  split
  · next hpass =>
      cases hs : h.sink with
      | output =>
          have hprinter : h.isPrinter = true := decide_eq_true hs
          rw [if_pos ⟨hprinter, hpass⟩, Sink.write]
      | errorOutput | display | file path maxBytes backups stream =>
          have hother : ¬ h.isPrinter = true := by simp [Handler.isPrinter, hs]
          rw [if_neg fun h => hother h.1, List.append_nil]
          rfl
  · next hpass => rw [if_neg fun h => hpass h.2, List.append_nil]

theorem output_handleAll (time : Text) (r : Record) (hs : List Handler) (w : Outlets) :
    (handleAll time r hs w).2.output
      = w.output ++ (((hs.filter Handler.isPrinter).filter (Handler.admits r.level)).map
          fun h => h.pattern.line time r).flatten := by
  induction hs generalizing w with
  | nil => exact (List.append_nil _).symm
  | cons h hs ih =>
      rw [handleAll]
      dsimp only
      rw [ih, output_handle, List.append_assoc]
      congr 1
      by_cases hp : h.isPrinter = true
      · rw [List.filter_cons_of_pos hp]
        by_cases hpass : h.admits r.level = true
        · rw [if_pos ⟨hp, hpass⟩, List.filter_cons_of_pos hpass, List.map_cons, List.flatten_cons]
        · rw [if_neg fun h => hpass h.2, List.filter_cons_of_neg hpass, List.nil_append]
      · rw [if_neg fun h => hp h.1, List.filter_cons_of_neg hp, List.nil_append]

theorem outlets_update (j : Journal) (name : Text) (change : Logger → Logger) :
    (j.update name change).outlets = j.outlets := by
  unfold update
  split <;> rfl

theorem time_update (j : Journal) (name : Text) (change : Logger → Logger) :
    (j.update name change).time = j.time := by
  unfold update
  split <;> rfl

theorem output_handleAt (r : Record) (j : Journal) (name : Text) :
    (handleAt r j name).outlets.output = j.outlets.output ++ (j.linesAt r name).flatten := by
  rw [handleAt]
  dsimp only
  rw [outlets_update, output_handleAll]
  rfl

theorem linesAt_handleAt (r : Record) (j : Journal) (name : Text) :
    (handleAt r j name).linesAt r = j.linesAt r := by
  funext n
  rw [linesAt, printers_handleAt, linesAt, show (handleAt r j name).time = j.time from
    time_update _ _ _]

/-- A record is written for one logger after the other. -/
theorem output_foldl_handleAt (r : Record) (names : List Text) (j : Journal) :
    (names.foldl (handleAt r) j).outlets.output
      = j.outlets.output ++ (names.flatMap (j.linesAt r)).flatten := by
  induction names generalizing j with
  | nil => exact (List.append_nil _).symm
  | cons name names ih =>
      rw [List.foldl_cons, ih, output_handleAt, linesAt_handleAt, List.flatMap_cons,
        List.flatten_append, List.append_assoc]

theorem output_deliver (j : Journal) (name : Text) (r : Record) :
    (j.deliver name r).outlets.output
      = j.outlets.output ++ ((j.chain name).flatMap (j.linesAt r)).flatten := by
  unfold deliver
  split
  · next hnone =>
      -- without any handler a record goes to the error output at most
      have hlines : (j.chain name).flatMap (j.linesAt r) = [] := by
        rw [List.flatMap_eq_nil_iff]
        intro n hn
        have hempty := List.isEmpty_iff.1 (List.all_eq_true.1 hnone n hn)
        rw [linesAt, printers, hempty]
        rfl
      rw [hlines, List.flatten_nil, List.append_nil, lastResort]
      split <;> rfl
  · exact output_foldl_handleAt r _ j

end Printing

/-! ## Logging a record -/

/-- Logs a record. -/
def logRecord (j : Journal) (r : Record) : Journal := j.log r.logger r.level r.message

/-- Logs records, one after the other. -/
def logAll (j : Journal) (rs : List Record) : Journal := rs.foldl logRecord j

/-- The journal when a record has come to its logger. -/
def reached (j : Journal) (r : Record) : Journal :=
  (j.enter r.logger).remember r.logger r.level

/-- A record with the name that is written for its logger. -/
def written (r : Record) : Record :=
  { r with logger := if isRootName r.logger then rootName else r.logger }

/-- The lines of a record that are written to the output. -/
def printedLines (j : Journal) (r : Record) : List Text :=
  if (j.reached r).takes r.logger r.level then
    ((j.reached r).chain r.logger).flatMap ((j.reached r).linesAt (written r))
  else []

/-- The loggers that print a record: of its logger and the loggers above, those that have a handler
for the output which the record passes, if its logger takes the record. -/
def printingLoggers (j : Journal) (r : Record) : List Text :=
  if (j.reached r).takes r.logger r.level then
    ((j.reached r).chain r.logger).filter (j.prints r.level)
  else []

section Logging

variable {j : Journal} {r : Record}

theorem output_reached (j : Journal) (r : Record) : (j.reached r).outlets = j.outlets := by
  rw [reached, remember, outlets_update, outlets_enter]

theorem given_reached (j : Journal) (r : Record) (n : Text) :
    (j.reached r).given n = j.given n := by
  have hremember : (j.reached r).given n = (j.enter r.logger).given n := by
    apply given_update
    intro l _
    split <;> rfl
  rw [hremember, given, setting_enter, given]

theorem printers_reached (j : Journal) (r : Record) (n : Text) :
    (j.reached r).printers n = j.printers n :=
  printers_eq_of_given_eq (given_reached j r n)

/-- What is written of a record is put behind what has been written before. -/
theorem output_log (j : Journal) (r : Record) :
    (j.logRecord r).outlets.output = j.outlets.output ++ (j.printedLines r).flatten := by
  rw [logRecord, log, printedLines, ← output_reached j r]
  show (if (j.reached r).takes r.logger r.level then (j.reached r).deliver r.logger (written r)
    else j.reached r).outlets.output = _
  split
  · exact output_deliver _ _ _
  · exact (List.append_nil _).symm

/-- A logger with one handler for the output at most writes one line if it prints, and none if it
does not. -/
theorem length_linesAt {n : Text} (h : (j.printers n).length ≤ 1) :
    ((j.reached r).linesAt (written r) n).length = if j.prints r.level n then 1 else 0 := by
  rw [linesAt, printers_reached, List.length_map, prints, written]
  match hp : j.printers n with
  | [] => rfl
  | [p] =>
      dsimp only
      rw [List.any_cons, List.any_nil, Bool.or_false]
      by_cases hpass : p.admits r.level = true
      · rw [List.filter_cons_of_pos hpass, if_pos hpass]
        rfl
      · rw [List.filter_cons_of_neg hpass, if_neg hpass]
        rfl
  | p :: q :: ps =>
      rw [hp, List.length_cons, List.length_cons] at h
      omega

/-- As many lines are written as there are loggers that print. -/
theorem length_printedLines (h : ∀ n, (j.printers n).length ≤ 1) :
    (j.printedLines r).length = (j.printingLoggers r).length := by
  have hnames : ∀ names : List Text,
      (names.flatMap ((j.reached r).linesAt (written r))).length
        = (names.filter (j.prints r.level)).length := by
    intro names
    induction names with
    | nil => rfl
    | cons n names ih =>
        rw [List.flatMap_cons, List.length_append, ih, length_linesAt (h n)]
        by_cases hn : j.prints r.level n = true
        · rw [if_pos hn, List.filter_cons_of_pos hn, List.length_cons, Nat.add_comm]
        · rw [if_neg hn, List.filter_cons_of_neg hn, Nat.zero_add]
  unfold printedLines printingLoggers
  split
  · exact hnames _
  · rfl

theorem nodup_printingLoggers (hj : j.IsNested) (r : Record) : (j.printingLoggers r).Nodup := by
  unfold printingLoggers
  split
  · have hreached : (j.reached r).IsNested := isNested_remember (isNested_enter hj _) _ _
    exact (nodup_chain hreached r.logger).filter _
  · exact List.Pairwise.nil

theorem printers_logAll (j : Journal) (rs : List Record) (n : Text) :
    (j.logAll rs).printers n = j.printers n := by
  induction rs generalizing j with
  | nil => rfl
  | cons r rs ih => exact (ih _).trans (printers_log j _ n _ _)

theorem isNested_logAll (hj : j.IsNested) (rs : List Record) : (j.logAll rs).IsNested := by
  induction rs generalizing j with
  | nil => exact hj
  | cons r rs ih => exact ih (isNested_log hj _ _ _)

end Logging

/-! ## Calls for the output -/

/-- A call that configures the root, sets its level or asks for a logger. -/
def Call.isForOutput : Call → Bool
  | .configure .. | .setLevel _ | .getLogger _ => true
  | .addFile .. | .setup .. => false

/-- A call that gives the logger of a name a handler for the output if it has none. -/
def Call.Serves (n : Text) : Call → Prop
  | .configure .. => isRootName n = true
  | .getLogger (some name) => SameLogger n name
  | .getLogger none | .setLevel _ | .addFile .. | .setup .. => False

section Calls

variable {j k : Journal} {c : Call} {calls : List Call} {n : Text}

/-- After a call a logger has no handler if it had none and was given none. -/
theorem handlers_run (h : (c.run j).fault = none) (hc : c.isForOutput = true) (n : Text) :
    ((c.run j).journal.setting n).2 = [] ↔ (j.setting n).2 = [] ∧ ¬ c.Serves n := by
  cases c with
  | configure levelName pattern file maxBytes backups =>
      obtain ⟨level, p, -, -, files, -, hsetting⟩ := setting_configure j h
      rw [Call.run, hsetting, Call.Serves]
      split
      · next hn => simp [hn]
      · next hn => simp [hn]
  | setLevel levelName =>
      obtain ⟨level, hsetting⟩ := setting_setLevel j h
      rw [Call.run, hsetting, Call.Serves]
      split <;> simp
  | getLogger name =>
      obtain ⟨logger, rfl, hsetting⟩ := setting_getLogger j h
      rw [Call.run, hsetting, Call.Serves]
      by_cases hn : SameLogger n logger
      · rw [setting_of_sameLogger j hn]
        split
        · simp [hn]
        · next hs =>
            have hsome : (j.setting logger).2 ≠ [] := fun he => hs ⟨hn, he⟩
            simp [hsome]
      · rw [if_neg fun hs => hn hs.1]
        simp [hn]
  | addFile _ _ | setup _ _ => cases hc

/-- A call gives a logger a handler for the output if it has none at all; that the root is given new
ones does not matter if it had one for the output before. -/
theorem printers_run (h : (c.run j).fault = none) (hc : c.isForOutput = true)
    (hn : isRootName n = true → (j.setting n).2 = [] ∨ j.printers n ≠ []) :
    (c.run j).journal.printers n ≠ [] ↔
      j.printers n ≠ [] ∨ ((j.setting n).2 = [] ∧ c.Serves n) := by
  have hprinters : ∀ k : Journal, k.printers n = (k.setting n).2.filter Handler.isPrinter :=
    fun _ => rfl
  rw [hprinters (c.run j).journal]
  cases c with
  | configure levelName pattern file maxBytes backups =>
      obtain ⟨level, p, -, -, files, -, hsetting⟩ := setting_configure j h
      rw [Call.run, hsetting, Call.Serves]
      split
      · next hroot =>
          rw [List.filter_cons_of_pos rfl]
          rcases hn hroot with hempty | hprints
          · simp [hempty, hroot]
          · simp [hprints]
      · next hroot => simp [hroot, hprinters]
  | setLevel levelName =>
      obtain ⟨level, hsetting⟩ := setting_setLevel j h
      rw [Call.run, hsetting, Call.Serves]
      split
      · rw [List.filter_map, Ne, List.map_eq_nil_iff, hprinters]
        simp [Function.comp_def, Handler.isPrinter]
      · simp [hprinters]
  | getLogger name =>
      obtain ⟨logger, rfl, hsetting⟩ := setting_getLogger j h
      rw [Call.run, hsetting, Call.Serves]
      by_cases hsame : SameLogger n logger
      · rw [← setting_of_sameLogger j hsame]
        by_cases hempty : (j.setting n).2 = []
        · rw [if_pos ⟨hsame, hempty⟩]
          simp [Handler.isPrinter, hempty, hsame]
        · rw [if_neg fun hs => hempty hs.2]
          simp [hprinters, hempty]
      · rw [if_neg fun hs => hsame hs.1]
        simp [hprinters, hsame]
  | addFile _ _ | setup _ _ => cases hc

/-- After calls for the output a logger has a handler for it if it had one, or if it had no handler
at all and one of the calls gives it one. -/
theorem printers_runAll (h : j.runAll calls = some k)
    (hcalls : ∀ c ∈ calls, c.isForOutput = true)
    (hn : isRootName n = true → (j.setting n).2 = [] ∨ j.printers n ≠ []) :
    k.printers n ≠ [] ↔
      j.printers n ≠ [] ∨ ((j.setting n).2 = [] ∧ ∃ c ∈ calls, c.Serves n) := by
  induction calls generalizing j with
  | nil =>
      cases h
      simp
  | cons c calls ih =>
      obtain ⟨hrun, hrest⟩ := runAll_cons h
      rw [List.forall_mem_cons] at hcalls
      have hprinters := printers_run hrun hcalls.1 hn
      have hhandlers := handlers_run hrun hcalls.1 n
      have hn' : isRootName n = true →
          ((c.run j).journal.setting n).2 = [] ∨ (c.run j).journal.printers n ≠ [] := by
        intro hroot
        rw [hprinters, hhandlers]
        by_cases hserves : c.Serves n
        · rcases hn hroot with hempty | hprints
          · exact Or.inr (Or.inr ⟨hempty, hserves⟩)
          · exact Or.inr (Or.inl hprints)
        · rcases hn hroot with hempty | hprints
          · exact Or.inl ⟨hempty, hserves⟩
          · exact Or.inr (Or.inl hprints)
      rw [ih hrest hcalls.2 hn', hprinters, hhandlers]
      simp only [List.mem_cons, exists_eq_or_imp]
      -- the first call that serves the logger finds it without handlers
      by_cases hserves : c.Serves n
      · simp [hserves]
      · simp [hserves]

theorem length_printers_le {name : Text} (h : (j.consoles name).length ≤ 1) :
    (j.printers name).length ≤ 1 := by
  rw [printers_eq_consoles]
  exact Nat.le_trans (List.length_filter_le _ _) h

theorem length_le_one_iff_of_nodup {names : List Text} (h : names.Nodup) :
    names.length ≤ 1 ↔ ∀ a ∈ names, ∀ b ∈ names, a = b := by
  match names with
  | [] => simp
  | [a] => simp
  | a :: b :: rest =>
      constructor
      · intro hlength
        rw [List.length_cons, List.length_cons] at hlength
        omega
      · intro hsame
        have hab : a = b := hsame a (by simp) b (by simp)
        rw [hab, List.nodup_cons] at h
        exact absurd (by simp) h.1

/-- Loggers are asked for, the root is configured, asked for as a logger and given another level. -/
def printingCalls : List Call :=
  [.getLogger (some "app".toList), .configure "info".toList [] [] 0 0,
    .getLogger (some "root".toList), .setLevel "DEBUG".toList]

end Calls

end Prepress.Journal
