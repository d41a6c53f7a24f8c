/-
# Every timeline is rendered

With the standard options no text keeps a timeline from being rendered.  A task whose end is beyond
the calendar is not read (`Document.isSome_finish?_of_read`), so the drawing has a scale; the scale
is at least a day long and a number (`Layout.exists_value_daysBetween`), so its days can be counted
and divided by; and the ticks stop where the calendar does.

* `render_standard` : a blank text is rendered to nothing, a text without tasks to a message, and
  every other text to a drawing.
-/
import Prepress.Proofs.Number.Double
import Prepress.Proofs.Timeline.OneTask
import Prepress.Proofs.Timeline.Outline

namespace Prepress.Timeline

open Text
open scoped List

variable {α : Type} [Measure α]

/-! ## The ends of a drawing -/

theorem Drawing.isPrefix_text (d : Drawing α) : "<svg".toList <+: d.text := ⟨_, rfl⟩

theorem Drawing.isSuffix_text (d : Drawing α) : "</svg>\n".toList <:+ d.text := by
  have hclose : "</svg>\n".toList = "</svg>".toList ++ ['\n'] := by decide
  unfold text elements
  rw [join_concat _ _ (by simp), hclose, List.append_assoc _ "</svg>".toList]
  exact List.suffix_append _ _

/-! ## The length of a timeline -/

/-- The length of a timeline in doubles is a number, and at least a day. -/
theorem Layout.exists_value_daysBetween (start finish : Instant) :
    ∃ q, Measure.value (daysBetween start finish : Float) = .exact q ∧ 1 ≤ q := by
  have hday : Measure.value (Measure.ofInt 1 : Float) = .exact 1 := rfl
  obtain ⟨q, hq⟩ := finish.exists_value_daysSince start
  -- both numbers are rational, so they are compared as such
  have hlt : Measure.lt (Measure.ofInt 1 : Float) (finish.daysSince start) = decide (1 < q) := by
    rw [Measure.lt, hday, hq]
    rfl
  rw [daysBetween, Measure.greater, hlt]
  by_cases h : 1 < q
  · rw [if_pos (decide_eq_true h)]
    exact ⟨q, hq, h.le⟩
  · rw [if_neg (by simp [h])]
    exact ⟨1, hday, le_rfl⟩

/-! ## Documents that are read -/

theorem Options.inRange_standard [FitsCanvas α] : (Options.standard : Options α).InRange :=
  ⟨FitsCanvas.width, FitsCanvas.frame⟩

/-- What is read from a text is drawn if there is a task in it. -/
theorem Drawing.exists_of?_read {options : Options α} (hl : options.truncateLabels = false)
    (hr : options.InRange) {directives : List Text} {text : Text}
    (hcount : (Document.read directives text : Document α).taskCount ≠ 0) :
    ∃ drawing, Drawing.of? options (Document.read directives text) = .ok drawing := by
  rw [Drawing.exists_of?_iff hl]
  · exact hr
  · intro hnone
    rw [← Document.length_tasks, hnone] at hcount
    exact hcount rfl
  · intro t ht
    exact Document.isSome_finish?_of_read ht

theorem Drawing.isScale_layout {options : Options α} {d : Document α} {drawing : Drawing α}
    (h : Drawing.of? options d = .ok drawing) : Layout.IsScale options d drawing.layout := by
  obtain ⟨layout, frame, shown, hlayout, -, -, rfl⟩ := of?_eq_ok_iff.1 h
  exact Layout.isScale_of_of? hlayout

/-! ## Every text -/

/-- With the standard options every text is rendered: to nothing exactly if it is blank, to the
message exactly if it is not blank and no task is read from it, and else to a drawing, whose length
in days is a number that is not less than one. -/
theorem render_standard (text : Text) :
    let options : Options Float := Options.standard
    let d : Document Float := Document.read options.ignoredDirectives text
    ∃ output, (render options text).result = .ok output ∧
      (output = [] ↔ isAllBlank text = true) ∧
      (output = "<pre>No tasks parsed in timeline</pre>".toList ↔
        isAllBlank text = false ∧ d.taskCount = 0) ∧
      ((∃ drawing, Drawing.of? options d = .ok drawing ∧ output = drawing.text ∧
          "<svg".toList <+: output ∧ "</svg>\n".toList <:+ output ∧
          ∃ q, Measure.value drawing.layout.totalDays = .exact q ∧ 1 ≤ q) ↔
        isAllBlank text = false ∧ d.taskCount ≠ 0) := by
  intro options d
  -- a drawing is told from nothing and from the message by its first characters
  have hempty : ¬ "<svg".toList <+: [] := by decide
  have hmessage : ¬ "<svg".toList <+: "<pre>No tasks parsed in timeline</pre>".toList := by decide
  cases hblank : isAllBlank text with
  | true =>
      refine ⟨[], render_of_blank hblank, by simp, by simp, ?_⟩
      apply iff_of_false
      · rintro ⟨drawing, -, -, hsvg, -⟩
        exact hempty hsvg
      · simp
  | false =>
      by_cases hcount : d.taskCount = 0
      · refine ⟨_, render_of_taskCount_eq_zero hblank hcount, ?_, iff_of_true rfl ⟨rfl, hcount⟩, ?_⟩
        · exact iff_of_false (by decide) (by simp)
        · apply iff_of_false
          · rintro ⟨drawing, -, -, hsvg, -⟩
            exact hmessage hsvg
          · exact fun h => h.2 hcount
      · obtain ⟨drawing, hdrawing⟩ := Drawing.exists_of?_read rfl Options.inRange_standard hcount
        have hresult := render_of_taskCount_ne_zero hblank hcount
        rw [hdrawing] at hresult
        have hsvg := drawing.isPrefix_text
        refine ⟨drawing.text, hresult, ?_, ?_, ?_⟩
        · apply iff_of_false
          · intro h
            rw [h] at hsvg
            exact hempty hsvg
          · simp
        · apply iff_of_false
          · intro h
            rw [h] at hsvg
            exact hmessage hsvg
          · exact fun h => hcount h.2
        · apply iff_of_true _ ⟨rfl, hcount⟩
          refine ⟨drawing, hdrawing, rfl, hsvg, drawing.isSuffix_text, ?_⟩
          rw [(Drawing.isScale_layout hdrawing).totalDays_eq]
          exact Layout.exists_value_daysBetween _ _

end Prepress.Timeline
