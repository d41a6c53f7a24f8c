/-
# Bars drawn to scale

In exact arithmetic a task stands as far from the beginning of the timeline as it starts after it,
and its bar is as long as the task takes.  The canvas is scaled by the moments at which tasks end,
which are rounded to microseconds, while a bar is as long as the days of its task, which are not.

* `Layout.drawn_to_scale` : the two differ by at most half a microsecond.
-/
import Prepress.Proofs.Timeline.Shift
import Prepress.Timeline.Drawing

namespace Prepress

/-! ## Moments and days -/

namespace Instant

variable {i j : Instant}

/-- The moment so many days later is off by at most half a microsecond. -/
theorem abs_micros_sub_le_of_plusDays? {days : Rat} (h : i.plusDays? days = some j) :
    |(j.since i : Rat) - days * dayMicros| ≤ 1 / 2 := by
  obtain ⟨micros, hmicros, hshift⟩ := Option.bind_eq_some_iff.1 h
  have hsince : j.since i = micros := by
    rw [since, micros_of_shift? hshift]
    omega
  rw [hsince]
  exact abs_micros_sub_le hmicros

end Instant

namespace Timeline

variable {α : Type} [Measure α]

/-! ## Where bars end -/

/-- The distance from the beginning of the timeline to the end of a task's days. -/
def Layout.barEnd (l : Layout α) (t : Task α) : α :=
  l.offset t.start + t.effectiveDays * l.dayWidth

/-- The bar of a task begins where the task starts, and it ends where the days of the task do
unless it would be narrower than bars are. -/
theorem Frame.exists_figure_eq_bar (f : Frame Rat) (l : Layout Rat) (y : Rat) {t : Task Rat}
    (ht : t.milestone = false) :
    ∃ x width, f.figure l y t = .bar x (f.rowTop y) width t.start ∧
      x = f.labelWidth + l.offset t.start ∧
      x + width = f.labelWidth + max (l.offset t.start + f.minBarWidth) (l.barEnd t) := by
  refine ⟨_, Measure.greater f.minBarWidth (t.effectiveDays * l.dayWidth), ?_, rfl, ?_⟩
  · rw [figure, ht]
    rfl
  · rw [Measure.greater_rat, Layout.barEnd, max_add_add_left]
    exact add_assoc _ _ _

namespace Layout

/-! ## Documents with a scale -/

section Exact

variable {options : Options Rat} {d : Document Rat} {l : Layout Rat}

/-- In exact arithmetic a document with tasks has a scale exactly when all of them end within the
calendar. -/
theorem exists_of?_iff_isSome_finish? (hd : d.tasks ≠ []) :
    (∃ l, of? options d = .ok l) ↔ ∀ t ∈ d.tasks, t.finish?.isSome = true := by
  constructor
  · rintro ⟨l, h⟩
    exact isSome_finish?_of_of? h
  · intro he
    rw [exists_of?_iff hd he, Measure.ofInt?_rat]
    rfl

/-! ## The scale in exact arithmetic -/

theorem offset_start (l : Layout Rat) : l.offset l.start = 0 := by
  show (l.start.daysSince l.start : Rat) * l.dayWidth = 0
  rw [Instant.daysSince_rat, Instant.since, sub_self, Int.cast_zero, zero_div, zero_mul]

namespace IsScale

theorem one_le_totalDays (hl : IsScale options d l) : 1 ≤ l.totalDays := by
  rw [hl.totalDays_rat]
  exact le_max_left _ _

theorem one_le_dayWidth (hl : IsScale options d l) : 1 ≤ l.dayWidth := by
  rw [hl.dayWidth_rat]
  exact le_max_left _ _

theorem dayWidth_pos (hl : IsScale options d l) : 0 < l.dayWidth :=
  lt_of_lt_of_le one_pos hl.one_le_dayWidth

/-- Moments are in the order of their distances from the beginning of the timeline. -/
theorem offset_le_offset_iff (hl : IsScale options d l) (i j : Instant) :
    l.offset i ≤ l.offset j ↔ i.micros ≤ j.micros := by
  show (i.daysSince l.start : Rat) * l.dayWidth ≤ (j.daysSince l.start : Rat) * l.dayWidth ↔ _
  rw [mul_le_mul_iff_of_pos_right hl.dayWidth_pos, Instant.daysSince_rat, Instant.daysSince_rat,
    div_le_div_iff_of_pos_right dayMicros_pos, Int.cast_le]
  unfold Instant.since
  omega

theorem offset_nonneg (hl : IsScale options d l) {t : Task Rat} (ht : t ∈ d.tasks) :
    0 ≤ l.offset t.start := by
  rw [← offset_start l, hl.offset_le_offset_iff]
  exact hl.start_le t ht

/-- The days of a task end where the task does, but for half a microsecond. -/
theorem abs_barEnd_sub_offset_le (hl : IsScale options d l) {t : Task Rat} {e : Instant}
    (he : t.finish? = some e) :
    |l.barEnd t - l.offset e| ≤ 1 / 2 / dayMicros * l.dayWidth := by
  have hdays : (e.daysSince l.start : Rat) - t.start.daysSince l.start
      = (e.since t.start : Rat) / dayMicros := by
    rw [Instant.daysSince_rat, Instant.daysSince_rat, ← sub_div]
    congr 1
    unfold Instant.since
    push_cast
    ring
  have hdiff : l.barEnd t - l.offset e
      = -((e.since t.start - t.effectiveDays * dayMicros) / dayMicros * l.dayWidth) := by
    calc l.barEnd t - l.offset e
        = (t.effectiveDays - ((e.daysSince l.start : Rat) - t.start.daysSince l.start))
            * l.dayWidth := by
          unfold barEnd offset
          ring
      _ = _ := by
          rw [hdays, sub_div, mul_div_cancel_right₀ _ dayMicros_pos.ne']
          ring
  rw [hdiff, abs_neg, abs_mul, abs_div, abs_of_pos dayMicros_pos, abs_of_pos hl.dayWidth_pos]
  apply mul_le_mul_of_nonneg_right _ hl.dayWidth_pos.le
  apply div_le_div_of_nonneg_right _ dayMicros_pos.le
  exact Instant.abs_micros_sub_le_of_plusDays? he

end IsScale

/-- **Bars drawn to scale.**  In exact arithmetic a document with tasks has a scale exactly when all
of them end within the calendar.  The timeline is then at least a day long and a day at least a unit
wide, and the days share the area that the bars are drawn in, or are a unit wide each; the first
task stands at the beginning of the timeline, and all stand in the order of their starts; and the
place where the days of a task are over, at which its bar ends if it is not narrower than bars are,
is at most half a microsecond from the place of the task's end. -/
theorem drawn_to_scale (options : Options Rat) {d : Document Rat} (hd : d.tasks ≠ []) :
    ((∃ l, of? options d = .ok l) ↔ ∀ t ∈ d.tasks, t.finish?.isSome = true) ∧
      ∀ l, of? options d = .ok l →
        (1 ≤ l.totalDays ∧ 1 ≤ l.dayWidth ∧
          l.totalDays * l.dayWidth = max l.totalDays options.canvas.timelineWidth) ∧
        ((∃ t ∈ d.tasks, l.offset t.start = 0) ∧ ∀ t ∈ d.tasks, 0 ≤ l.offset t.start) ∧
        (∀ s ∈ d.tasks, ∀ t ∈ d.tasks,
          s.start.micros ≤ t.start.micros ↔ l.offset s.start ≤ l.offset t.start) ∧
        (∀ t ∈ d.tasks, ∀ e, t.finish? = some e →
          |l.barEnd t - l.offset e| ≤ 1 / 2 / dayMicros * l.dayWidth) ∧
        ∀ t ∈ d.tasks, t.milestone = false → ∀ (f : Frame Rat) (y : Rat),
          ∃ x width, f.figure l y t = .bar x (f.rowTop y) width t.start ∧
            x = f.labelWidth + l.offset t.start ∧
            x + width = f.labelWidth + max (l.offset t.start + f.minBarWidth) (l.barEnd t) := by
  refine ⟨exists_of?_iff_isSome_finish? hd, fun l hof => ?_⟩
  have hl : IsScale options d l := isScale_of_of? hof
  refine ⟨⟨hl.one_le_totalDays, hl.one_le_dayWidth, hl.totalDays_mul_dayWidth⟩,
    ⟨?_, ?_⟩, ?_, ?_, ?_⟩
  · obtain ⟨t, ht, hstart⟩ := hl.exists_start
    refine ⟨t, ht, ?_⟩
    rw [hstart]
    exact offset_start l
  · exact fun t ht => hl.offset_nonneg ht
  · exact fun s _ t _ => (hl.offset_le_offset_iff s.start t.start).symm
  · exact fun t _ e he => hl.abs_barEnd_sub_offset_le he
  · exact fun t _ ht f y => f.exists_figure_eq_bar l y ht

/-- A task of ten sevenths of a day, whose end is rounded, and a milestone a day after its start. -/
def sprint : Document Rat :=
  ⟨none, [⟨['S'], [⟨"Draft".toList, projectStart, 10 / 7, false⟩,
    ⟨"Review".toList, laterStart, 0, true⟩]⟩]⟩

/-- The sprint is drawn to scale. -/
theorem drawn_to_scale_sprint :
    ∃ l, of? Options.standard sprint = .ok l ∧ 1 ≤ l.totalDays ∧ 1 ≤ l.dayWidth ∧
      l.offset projectStart < l.offset laterStart ∧
      ∀ t ∈ sprint.tasks, ∀ e, t.finish? = some e →
        |l.barEnd t - l.offset e| ≤ 1 / 2 / dayMicros * l.dayWidth := by
  obtain ⟨hscale, hdrawn⟩ := drawn_to_scale Options.standard (d := sprint) (by decide)
  obtain ⟨l, hof⟩ := hscale.2 (by decide +kernel)
  obtain ⟨⟨htotal, hday, -⟩, -, horder, hends, -⟩ := hdrawn l hof
  refine ⟨l, hof, htotal, hday, ?_, hends⟩
  -- the task that starts first stands first
  have hback := horder ⟨"Review".toList, laterStart, 0, true⟩ (by simp [sprint, Document.tasks])
    ⟨"Draft".toList, projectStart, 10 / 7, false⟩ (by simp [sprint, Document.tasks])
  exact not_le.1 fun h => absurd (hback.2 h) (by decide)

end Exact

end Layout

end Timeline

end Prepress
