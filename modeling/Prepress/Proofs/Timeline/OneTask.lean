/-
# A timeline of one task

A block with one section and one task that lasts a day is drawn with the label of the task and no
other (`render_oneTask`).
-/
import Prepress.Proofs.Text.Layout
import Prepress.Proofs.Timeline.Labels
import Prepress.Proofs.Timeline.Reading
import Prepress.Proofs.Timeline.Scale
import Prepress.Proofs.Timeline.TaskLine

namespace Prepress.Timeline

open Text

/-! ## Measures -/

/-- A measure that a day and the standard canvas are given in. -/
class FitsCanvas (α : Type) [Measure α] : Prop where
  day : microsOfDays? (Measure.ofInt 1 : α) = some (dayMicros : Int)
  width : (Measure.ofInt? Canvas.standard.timelineWidth : Option α).isSome = true
  frame : (Frame.of? (Options.standard : Options α)).isSome = true

instance : FitsCanvas Float where
  day := by decide +kernel
  width := by decide +kernel
  frame := by decide +kernel

instance : FitsCanvas Rat where
  day := by decide +kernel
  width := by decide +kernel
  frame := by decide +kernel

/-! ## The block and its document -/

/-- The lines of a block with one section and one task. -/
def oneTaskText (label : Text) : Text :=
  "section S\n".toList ++ (label ++ " :t1, 2025-01-01, 1d".toList)

/-- The first day of the year 2025. -/
def newYear : Instant :=
  .midnight ⟨2025, 1, 1, by decide, by decide, by decide, by decide, by decide, by decide⟩

variable {α : Type} [Measure α]

/-- A task of a day. -/
def dayTask (label : Text) : Task α := ⟨label, newYear, Measure.ofInt 1, false⟩

/-- A document with one section and one task. -/
def oneTask (label : Text) : Document α := ⟨none, [⟨['S'], [dayTask label]⟩]⟩

theorem isSome_finish? [FitsCanvas α] (label : Text) :
    (dayTask label : Task α).finish?.isSome = true := by
  have hdays : (dayTask label : Task α).effectiveDays = Measure.ofInt 1 := rfl
  have hstart : (dayTask label : Task α).start = newYear := rfl
  have hday : (newYear.shift? dayMicros).isSome = true := by decide +kernel
  rw [Task.finish?, hdays, hstart, Instant.plusDays?, FitsCanvas.day, Option.bind_some]
  exact hday

/-- The parts of the line describe the task. -/
theorem ofParts_dayTask [FitsCanvas α] (label : Text) :
    Task.ofParts label ["t1".toList, "2025-01-01".toList, "1d".toList]
      = .ok (dayTask label : Task α) := by
  have hdate : Calendar.instant? "2025-01-01".toList = some newYear := by decide +kernel
  have hduration : Duration.read (["1d".toList].headD defaultDuration) "t1".toList
      = (⟨Measure.ofInt 1, false⟩ : Duration α) := by
    have hmilestone : (isMilestoneToken (trim "1d".toList).lower ||
        isMilestoneIdentifier (trim "t1".toList)) = false := by decide +kernel
    have hnumeral : firstNumeral? (trim "1d".toList).lower = some (['1'], []) := by decide +kernel
    have hunit : (trim "1d".toList).lower.getLast? ≠ some 'h' := by decide +kernel
    exact Duration.read_eq_days hmilestone hnumeral hunit
  exact Task.ofParts_eq_ok hdate hduration (isSome_finish? label)

/-! ## Reading -/

/-- The block describes the document. -/
theorem read_oneTaskText [FitsCanvas α] {l : Text} (h : IsLabel standardDirectives l) :
    (Document.read standardDirectives (oneTaskText l ++ ['\n']) : Document α) = oneTask l := by
  have hcontent : IsContent "t1, 2025-01-01, 1d".toList := ⟨by decide +kernel, by decide, by decide⟩
  have hparts : Line.parts "t1, 2025-01-01, 1d".toList
      = ["t1".toList, "2025-01-01".toList, "1d".toList] := by
    decide +kernel
  have htext : oneTaskText l
      = "section S\n".toList ++ (l ++ " :".toList ++ "t1, 2025-01-01, 1d".toList) := by
    rw [List.append_assoc]
    rfl
  rw [Document.read, entries, contentLines_concat, ← entries, htext, entries_section h hcontent,
    hparts, ofParts_dayTask]
  rfl

/-! ## Drawing -/

theorem layout_oneTask [FitsCanvas α] (l : Text) :
    ∃ layout : Layout α, Layout.of? Options.standard (oneTask l) = .ok layout := by
  have htasks : (oneTask l : Document α).tasks = [dayTask l] := rfl
  have hends : ∀ t ∈ (oneTask l : Document α).tasks, t.finish?.isSome = true := by
    intro t ht
    rw [htasks] at ht
    rw [List.mem_singleton.1 ht]
    exact isSome_finish? l
  rw [Layout.exists_of?_iff (by rw [htasks]; exact List.cons_ne_nil _ _) hends]
  exact FitsCanvas.width

/-- The document is drawn with its label. -/
theorem drawing_oneTask [FitsCanvas α] (l : Text) :
    ∃ d : Drawing α, Drawing.of? Options.standard (oneTask l) = .ok d ∧ d.labels = [l] := by
  obtain ⟨layout, hlayout⟩ := layout_oneTask (α := α) l
  obtain ⟨frame, hframe⟩ := Option.isSome_iff_exists.1 (FitsCanvas.frame (α := α))
  have hshown : (Options.standard : Options α).label? = .ok id := rfl
  rw [Drawing.of?, hlayout, hframe, hshown]
  exact ⟨_, rfl, rfl⟩

/-- The block is drawn with its label, one element on a line. -/
theorem render_oneTask [FitsCanvas α] {l : Text} (h : IsLabel standardDirectives l) :
    ∃ d : Drawing α,
      (render (Options.standard : Options α) (oneTaskText l ++ ['\n'])).result = .ok d.text ∧
        d.labels = [l] ∧ ∀ e ∈ d.elements, '\n' ∉ e := by
  obtain ⟨d, hd, hlabels⟩ := drawing_oneTask (α := α) l
  have hblank : isAllBlank (oneTaskText l ++ ['\n']) = false := by
    unfold oneTaskText
    rfl
  have hread : (Document.read (Options.standard : Options α).ignoredDirectives
      (oneTaskText l ++ ['\n']) : Document α) = oneTask l := read_oneTaskText h
  have hcount : (Document.read (Options.standard : Options α).ignoredDirectives
      (oneTaskText l ++ ['\n']) : Document α).taskCount ≠ 0 := by
    rw [hread]
    exact Nat.one_ne_zero
  refine ⟨d, ?_, hlabels, ?_⟩
  · rw [render_of_taskCount_ne_zero hblank hcount, hread, hd]
    rfl
  · have hbreak : '\n' ∉ l := by
      intro hm
      exact absurd (h.within_line '\n' hm) (by decide)
    have hwithin : (oneTask l : Document α).IsWithin (· ≠ '\n') := by
      refine ⟨by simp [oneTask], ?_, ?_⟩
      · simp [oneTask]
      · intro s hs t ht c hc
        rw [List.mem_singleton.1 hs, List.mem_singleton] at ht
        rw [ht] at hc
        exact fun he => hbreak (by rw [← he]; exact hc)
    have hplain : ∀ c, IsPlain c → c ≠ '\n' := by
      intro c hc he
      rw [he] at hc
      revert hc
      decide
    intro e he hm
    exact d.within_elements hplain (Drawing.isWithin_of_of? hplain hd hwithin) e he '\n' hm rfl

end Prepress.Timeline
