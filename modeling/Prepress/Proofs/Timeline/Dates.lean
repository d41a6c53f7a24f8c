/-
# Dates of tasks

The line of a task is cut into parts at its commas.  A date without a comma is one part, and the
task begins at the moment that the date names:

* `read_datedTaskText` : such a date gives a task.

Some forms of dates have a comma between the day and the year.  The line then has two parts in the
place of the date, and the first of them has too few digits for a year:

* `read_datedTaskText_of_comma` : such a date gives no task.
-/
import Prepress.Proofs.Calendar.Spelling
import Prepress.Proofs.Timeline.Reading
import Prepress.Proofs.Timeline.TaskLine
import Prepress.Timeline.Options

namespace Prepress.Timeline

open Text

/-! ## Parts -/

/-- A text without a comma that is not blank is one part after a space. -/
theorem parts_space {t : Text} (hcomma : ',' ∉ t) (ht : isAllBlank t = false) :
    Line.parts (' ' :: t) = [trim t] := by
  have hblank : isAllBlank (' ' :: t) = false := by
    rw [isAllBlank, List.all_cons, ← isAllBlank, ht, Bool.and_false]
  have htrim : trim (' ' :: t) = trim t := trim_append_left (a := [' ']) (by decide) t
  rw [parts_of_not_mem (by simpa using hcomma), content?, hblank, htrim]
  rfl

/-- What stands before a date and after it on the line of a task. -/
theorem parts_date (date : Text) :
    Line.parts ("t1, ".toList ++ (date ++ ", 2d".toList))
      = "t1".toList :: (Line.parts (' ' :: date) ++ ["2d".toList]) := by
  have htext : "t1, ".toList ++ (date ++ ", 2d".toList)
      = "t1".toList ++ ',' :: (' ' :: date ++ ',' :: " 2d".toList) := rfl
  have hfirst : Line.parts "t1".toList = ["t1".toList] := by decide +kernel
  have hlast : Line.parts " 2d".toList = ["2d".toList] := by decide +kernel
  rw [htext, parts_append_comma, parts_append_comma, hfirst, hlast]
  rfl

/-! ## A section with one task -/

/-- A section with a line for a task that begins on a date and takes two days. -/
def datedTaskText (date : Text) : Text := "section S\nT :t1, ".toList ++ (date ++ ", 2d".toList)

variable {α : Type} [Measure α]

/-- A task of two days. -/
def twoDayTask (start : Instant) : Task α := ⟨['T'], start, Measure.ofInt 2, false⟩

/-- The section has one line for its task, whatever the date is. -/
theorem entries_datedTaskText {date : Text} (hline : ∀ c ∈ date, isLineBreak c = false) :
    ∃ line, (entries standardDirectives (datedTaskText date) : List (Entry α))
      = [.heading ['S'], .task line (Task.ofParts ['T']
          ("t1".toList :: (Line.parts (' ' :: date) ++ ["2d".toList])))] := by
  have hlabel : IsLabel standardDirectives ['T'] :=
    ⟨by decide +kernel, by decide, by decide, by decide, by decide, by decide +kernel, by decide⟩
  have hfirst : IsContent "t1,".toList := ⟨by decide +kernel, by decide, by decide⟩
  have hlast : IsContent "2d".toList := ⟨by decide +kernel, by decide, by decide⟩
  have hmiddle : Within (isLineBreak · = false) (' ' :: date ++ ", ".toList) :=
    Within.append (within_cons.2 ⟨by decide, hline⟩) (by decide)
  have hrest : "t1,".toList ++ (' ' :: date ++ ", ".toList) ++ "2d".toList
      = "t1, ".toList ++ (date ++ ", 2d".toList) := by
    rw [List.append_assoc, List.append_assoc]
    rfl
  have hcontent : IsContent ("t1, ".toList ++ (date ++ ", 2d".toList)) :=
    hrest ▸ hfirst.between hlast hmiddle
  have hentries := entries_section (α := α) hlabel hcontent
  rw [parts_date] at hentries
  exact ⟨_, hentries⟩

/-- **A date without a comma gives a task.**  The task begins at the moment that the date names. -/
theorem read_datedTaskText {date : Text} {start : Instant}
    (hline : ∀ c ∈ date, isLineBreak c = false) (hcomma : ',' ∉ date)
    (hdate : Calendar.instant? date = some start)
    (hfinish : (twoDayTask start : Task α).finish?.isSome = true) :
    Document.read (Options.standard : Options α).ignoredDirectives (datedTaskText date)
      = (⟨none, [⟨['S'], [twoDayTask start]⟩]⟩ : Document α) := by
  have hparts : Line.parts (' ' :: date) = [trim date] :=
    parts_space hcomma (Calendar.isAllBlank_eq_false_of_instant? hdate)
  have hduration : Duration.read (["2d".toList].headD defaultDuration) "t1".toList
      = (⟨Measure.ofInt 2, false⟩ : Duration α) := by
    have hmilestone : (isMilestoneToken (trim "2d".toList).lower ||
        isMilestoneIdentifier (trim "t1".toList)) = false := by decide +kernel
    have hnumeral : firstNumeral? (trim "2d".toList).lower = some (['2'], []) := by decide +kernel
    have hunit : (trim "2d".toList).lower.getLast? ≠ some 'h' := by decide +kernel
    exact Duration.read_eq_days hmilestone hnumeral hunit
  have htask : Task.ofParts ['T'] ["t1".toList, trim date, "2d".toList]
      = .ok (twoDayTask start : Task α) := by
    rw [← Calendar.instant?_trim] at hdate
    exact Task.ofParts_eq_ok hdate hduration hfinish
  obtain ⟨line, hentries⟩ := entries_datedTaskText (α := α) hline
  rw [hparts, List.singleton_append, htask] at hentries
  show Document.ofEntries (entries standardDirectives (datedTaskText date)) = _
  rw [hentries]
  rfl

/-- The fifteenth of January in the year 2025. -/
def midJanuary : Instant :=
  .midnight ((Date.of? 2025 1 15).get (by decide))

theorem read_datedTaskText_dayFirst :
    (∀ c ∈ "15 Jan 2025".toList, isLineBreak c = false) ∧ ',' ∉ "15 Jan 2025".toList ∧
      Calendar.instant? "15 Jan 2025".toList = some midJanuary ∧
      (twoDayTask midJanuary : Task Float).finish?.isSome = true ∧
      Document.read (Options.standard : Options Float).ignoredDirectives
          (datedTaskText "15 Jan 2025".toList)
        = (⟨none, [⟨['S'], [twoDayTask midJanuary]⟩]⟩ : Document Float) := by
  have hline : ∀ c ∈ "15 Jan 2025".toList, isLineBreak c = false := by decide
  have hcomma : ',' ∉ "15 Jan 2025".toList := by decide
  have hdate : Calendar.instant? "15 Jan 2025".toList = some midJanuary := by decide +kernel
  have hfinish : (twoDayTask midJanuary : Task Float).finish?.isSome = true := by decide +kernel
  exact ⟨hline, hcomma, hdate, hfinish, read_datedTaskText hline hcomma hdate hfinish⟩

/-- **A date with a comma gives no task**, if it is of a general form. -/
theorem read_datedTaskText_of_comma {date : Text} {d : Date}
    (hline : ∀ c ∈ date, isLineBreak c = false) (hcomma : ',' ∈ date)
    (hdate : Calendar.generalDate? (trim date) = some d) :
    Document.read (Options.standard : Options α).ignoredDirectives (datedTaskText date)
      = (⟨none, [⟨['S'], []⟩]⟩ : Document α) := by
  obtain ⟨a, b, hab, hnot, hblank, hunreadable⟩ := Calendar.exists_comma_of_trim hcomma hdate
  -- the part in the place of the date is what stands before the comma
  have hparts : Line.parts (' ' :: date) = trim a :: Line.parts b := by
    rw [hab, ← List.cons_append, parts_append_comma, parts_space hnot hblank]
    rfl
  rw [← Calendar.instant?_trim] at hunreadable
  obtain ⟨line, hentries⟩ := entries_datedTaskText (α := α) hline
  rw [hparts, List.cons_append, Task.ofParts, hunreadable] at hentries
  show Document.ofEntries (entries standardDirectives (datedTaskText date)) = _
  rw [hentries]
  rfl

theorem read_datedTaskText_monthFirst :
    (∀ c ∈ "January 15, 2025".toList, isLineBreak c = false) ∧
      Calendar.instant? "January 15, 2025".toList = some midJanuary ∧
      (twoDayTask midJanuary : Task Float).finish?.isSome = true ∧
      Document.read (Options.standard : Options Float).ignoredDirectives
          (datedTaskText "January 15, 2025".toList)
        = (⟨none, [⟨['S'], []⟩]⟩ : Document Float) := by
  have hline : ∀ c ∈ "January 15, 2025".toList, isLineBreak c = false := by decide
  have hdate : Calendar.instant? "January 15, 2025".toList = some midJanuary := by decide +kernel
  have hfinish : (twoDayTask midJanuary : Task Float).finish?.isSome = true := by decide +kernel
  obtain ⟨d, hd⟩ : ∃ d, Calendar.generalDate? (trim "January 15, 2025".toList) = some d := by
    rw [← Option.isSome_iff_exists]
    decide +kernel
  exact ⟨hline, hdate, hfinish, read_datedTaskText_of_comma hline (by decide) hd⟩

end Prepress.Timeline
