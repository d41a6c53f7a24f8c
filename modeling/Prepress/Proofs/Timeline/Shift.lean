/-
# The scale of a moved timeline

The scale of a timeline is about spans of time only.  A document may have its tasks put in another
order, within its sections and across them, and all of them moved by one span of time: the timeline
keeps its length, the width of its days and its height, and every bar begins where it began
(`Layout.of?_of_isRearranged`).
-/
import Prepress.Proofs.Timeline.Scale

namespace Prepress

/-! ## Moments that are moved -/

namespace Instant

variable {δ : Int} {i j : Instant}

theorem micros_of_shift? (h : i.shift? δ = some j) : (j.micros : Int) = i.micros + δ := by
  unfold shift? at h
  dsimp only at h
  split at h
  next hrange =>
    rw [← Option.some.inj h]
    exact Int.toNat_of_nonneg hrange.1
  next => exact absurd h (by simp)

/-- The span between two moments that are moved together stays. -/
theorem daysSince_eq {α : Type} [Measure α] {a b a' b' : Instant}
    (ha : (a'.micros : Int) = a.micros + δ) (hb : (b'.micros : Int) = b.micros + δ) :
    (a'.daysSince b' : α) = a.daysSince b := by
  have hsince : a'.since b' = a.since b := by
    rw [since, since, ha, hb]
    omega
  rw [daysSince, daysSince, hsince]

end Instant

namespace Timeline

variable {α : Type} {δ : Int}

/-! ## Tasks that are moved -/

/-- The task that begins so many microseconds later, if the calendar reaches its start. -/
def Task.shift? (δ : Int) (t : Task α) : Option (Task α) :=
  (t.start.shift? δ).map fun start => { t with start }

namespace Task

variable {t t' : Task α}

theorem start_of_shift? (h : t.shift? δ = some t') :
    (t'.start.micros : Int) = t.start.micros + δ := by
  obtain ⟨start, hstart, rfl⟩ := Option.map_eq_some_iff.1 h
  exact Instant.micros_of_shift? hstart

variable [Measure α]

theorem effectiveDays_of_shift? (h : t.shift? δ = some t') :
    t'.effectiveDays = t.effectiveDays := by
  obtain ⟨start, -, rfl⟩ := Option.map_eq_some_iff.1 h
  rfl

/-- A task and the task moved end as far apart as they begin. -/
theorem finish_of_shift? (h : t.shift? δ = some t') {e e' : Instant} (he : t.finish? = some e)
    (he' : t'.finish? = some e') : (e'.micros : Int) = e.micros + δ := by
  rw [finish?, Instant.plusDays?] at he he'
  rw [effectiveDays_of_shift? h] at he'
  obtain ⟨days, hdays, he⟩ := Option.bind_eq_some_iff.1 he
  obtain ⟨days', hdays', he'⟩ := Option.bind_eq_some_iff.1 he'
  rw [hdays, Option.some.injEq] at hdays'
  subst hdays'
  rw [Instant.micros_of_shift? he, Instant.micros_of_shift? he', start_of_shift? h]
  omega

end Task

/-! ## Documents that are moved -/

/-- One document has the tasks of the other, moved by so many microseconds and put in some order, in
as many sections. -/
structure IsRearranged (δ : Int) (d d' : Document α) : Prop where
  tasks : ∃ moved, d.tasks.mapM (Task.shift? δ) = some moved ∧ moved.Perm d'.tasks
  sections : d'.sections.length = d.sections.length

namespace IsRearranged

variable {d d' : Document α}

/-- The tasks of the other document are the tasks of this one moved. -/
theorem perm (h : IsRearranged δ d d') :
    (d.tasks.map (Task.shift? δ)).Perm (d'.tasks.map some) := by
  obtain ⟨moved, hmoved, hperm⟩ := h.tasks
  rw [map_eq_of_mapM hmoved]
  exact hperm.map some

theorem exists_shift (h : IsRearranged δ d d') {t : Task α} (ht : t ∈ d.tasks) :
    ∃ t' ∈ d'.tasks, t.shift? δ = some t' := by
  have hmem : t.shift? δ ∈ d'.tasks.map some := h.perm.mem_iff.1 (List.mem_map_of_mem ht)
  obtain ⟨t', ht', hshift⟩ := List.mem_map.1 hmem
  exact ⟨t', ht', hshift.symm⟩

theorem exists_origin (h : IsRearranged δ d d') {t' : Task α} (ht' : t' ∈ d'.tasks) :
    ∃ t ∈ d.tasks, t.shift? δ = some t' :=
  List.mem_map.1 (h.perm.mem_iff.2 (List.mem_map_of_mem ht'))

theorem length_tasks_eq (h : IsRearranged δ d d') : d'.tasks.length = d.tasks.length := by
  have hlength := h.perm.length_eq
  rw [List.length_map, List.length_map] at hlength
  exact hlength.symm

theorem rowCount_eq (h : IsRearranged δ d d') : d'.rowCount = d.rowCount := by
  rw [Document.rowCount, Document.rowCount, ← Document.length_tasks, ← Document.length_tasks,
    h.sections, h.length_tasks_eq]

theorem tasks_ne_nil (h : IsRearranged δ d d') (hd : d.tasks ≠ []) : d'.tasks ≠ [] := by
  rw [← List.length_pos_iff, h.length_tasks_eq, List.length_pos_iff]
  exact hd

end IsRearranged

/-! ## The scale -/

namespace Layout

variable [Measure α] {options : Options α} {d d' : Document α} {l l' : Layout α}

namespace IsScale

/-- The timeline of the moved document begins so much later: the first task is the first in both. -/
theorem start_of_isRearranged (hl : IsScale options d l) (hl' : IsScale options d' l')
    (h : IsRearranged δ d d') : (l'.start.micros : Int) = l.start.micros + δ := by
  apply le_antisymm
  · obtain ⟨t, ht, hstart⟩ := hl.exists_start
    obtain ⟨t', ht', hshift⟩ := h.exists_shift ht
    rw [← hstart, ← Task.start_of_shift? hshift]
    exact_mod_cast hl'.start_le t' ht'
  · obtain ⟨t', ht', hstart⟩ := hl'.exists_start
    obtain ⟨t, ht, hshift⟩ := h.exists_origin ht'
    rw [← hstart, Task.start_of_shift? hshift, Int.add_le_add_iff_right]
    exact_mod_cast hl.start_le t ht

/-- The timeline of the moved document ends so much later. -/
theorem finish_of_isRearranged (hl : IsScale options d l) (hl' : IsScale options d' l')
    (h : IsRearranged δ d d') (he : ∀ t ∈ d.tasks, t.finish?.isSome = true)
    (he' : ∀ t ∈ d'.tasks, t.finish?.isSome = true) :
    (l'.finish.micros : Int) = l.finish.micros + δ := by
  apply le_antisymm
  · obtain ⟨t', ht', hfinish'⟩ := hl'.exists_finish
    obtain ⟨t, ht, hshift⟩ := h.exists_origin ht'
    obtain ⟨e, hfinish⟩ := Option.isSome_iff_exists.1 (he t ht)
    rw [Task.finish_of_shift? hshift hfinish hfinish', Int.add_le_add_iff_right]
    exact_mod_cast hl.le_finish t ht e hfinish
  · obtain ⟨t, ht, hfinish⟩ := hl.exists_finish
    obtain ⟨t', ht', hshift⟩ := h.exists_shift ht
    obtain ⟨e', hfinish'⟩ := Option.isSome_iff_exists.1 (he' t' ht')
    rw [← Task.finish_of_shift? hshift hfinish hfinish']
    exact_mod_cast hl'.le_finish t' ht' e' hfinish'

/-- Two timelines of one length on one canvas have days of one width. -/
theorem dayWidth_congr (hl : IsScale options d l) (hl' : IsScale options d' l')
    (h : l'.totalDays = l.totalDays) : l'.dayWidth = l.dayWidth := by
  obtain ⟨width, hwidth, hday⟩ := hl.dayWidth_eq
  obtain ⟨width', hwidth', hday'⟩ := hl'.dayWidth_eq
  rw [hwidth, Option.some.injEq] at hwidth'
  rw [hday, hday', h, hwidth']

end IsScale

theorem of?_eq_outOfRange (hd : d.tasks ≠ [])
    (hwidth : (Measure.ofInt? options.canvas.timelineWidth : Option α) = none) :
    of? options d = .error .outOfRange := by
  obtain ⟨first, rest, htasks⟩ := List.exists_cons_of_ne_nil hd
  unfold of?
  rw [htasks]
  dsimp only
  rw [hwidth]
  cases first.finish? <;> cases rest.mapM Task.finish? <;> rfl

/-- **The scale of a moved timeline.**  If the tasks of a document are put in another order in as
many sections and all moved by one span of time, and all of them start and end within the calendar,
the timeline has the same length, the same width of a day and the same height, and every task has
the same distance from its beginning.  On a canvas that is wider than any number neither document
has a scale. -/
theorem of?_of_isRearranged (options : Options α) (h : IsRearranged δ d d') (hd : d.tasks ≠ [])
    (he : ∀ t ∈ d.tasks, t.finish?.isSome = true)
    (he' : ∀ t ∈ d'.tasks, t.finish?.isSome = true) :
    (∃ l l', of? options d = .ok l ∧ of? options d' = .ok l' ∧
        l'.totalDays = l.totalDays ∧ l'.dayWidth = l.dayWidth ∧ l'.height = l.height ∧
        ∀ t ∈ d.tasks, ∀ t', t.shift? δ = some t' → l'.offset t'.start = l.offset t.start) ∨
      (Measure.ofInt? options.canvas.timelineWidth : Option α) = none ∧
        of? options d = .error .outOfRange ∧ of? options d' = .error .outOfRange := by
  have hd' : d'.tasks ≠ [] := h.tasks_ne_nil hd
  cases hwidth : (Measure.ofInt? options.canvas.timelineWidth : Option α) with
  | none => exact Or.inr ⟨rfl, of?_eq_outOfRange hd hwidth, of?_eq_outOfRange hd' hwidth⟩
  | some width =>
      have hsome : (Measure.ofInt? options.canvas.timelineWidth : Option α).isSome = true := by
        rw [hwidth]
        rfl
      obtain ⟨l, hof⟩ := (exists_of?_iff hd he).2 hsome
      obtain ⟨l', hof'⟩ := (exists_of?_iff hd' he').2 hsome
      have hl : IsScale options d l := isScale_of_of? hof
      have hl' : IsScale options d' l' := isScale_of_of? hof'
      have hstart := hl.start_of_isRearranged hl' h
      have hdays : l'.totalDays = l.totalDays := by
        rw [hl.totalDays_eq, hl'.totalDays_eq, daysBetween, daysBetween,
          Instant.daysSince_eq (hl.finish_of_isRearranged hl' h he he') hstart]
      have hwidths : l'.dayWidth = l.dayWidth := hl.dayWidth_congr hl' hdays
      refine Or.inl ⟨l, l', hof, hof', hdays, hwidths, ?_, ?_⟩
      · rw [hl.height_eq, hl'.height_eq, h.rowCount_eq]
      · intro t _ t' hshift
        rw [offset, offset, Instant.daysSince_eq (Task.start_of_shift? hshift) hstart, hwidths]

/-- A plan of two sections, with a task in one and a milestone in the other. -/
def plan : Document Rat :=
  ⟨none, [⟨['A'], [⟨"Draft".toList, projectStart, 2, false⟩]⟩,
    ⟨['B'], [⟨"Print".toList, projectEnd, 0, true⟩]⟩]⟩

/-- The day after the first day of the plan. -/
def laterStart : Instant := .midnight ((Date.of? 2020 1 2).get (by decide))

/-- The day after its last day. -/
def laterEnd : Instant := .midnight ((Date.of? 2022 9 28).get (by decide))

/-- The plan a day later, with the task behind the milestone in the section of the milestone. -/
def laterPlan : Document Rat :=
  ⟨none, [⟨['A'], []⟩,
    ⟨['B'], [⟨"Print".toList, laterEnd, 0, true⟩, ⟨"Draft".toList, laterStart, 2, false⟩]⟩]⟩

theorem isRearranged_laterPlan : IsRearranged dayMicros plan laterPlan := by
  have hstart : projectStart.shift? dayMicros = some laterStart := by decide
  have hend : projectEnd.shift? dayMicros = some laterEnd := by decide
  refine ⟨⟨laterPlan.tasks.reverse, ?_, List.reverse_perm _⟩, rfl⟩
  simp [plan, laterPlan, Document.tasks, Task.shift?, hstart, hend]

/-- The plan has the same scale a day later. -/
theorem of?_laterPlan :
    ∃ l l', of? Options.standard plan = .ok l ∧ of? Options.standard laterPlan = .ok l' ∧
      l'.totalDays = l.totalDays ∧ l'.dayWidth = l.dayWidth ∧ l'.height = l.height ∧
      ∀ t ∈ plan.tasks, ∀ t', t.shift? dayMicros = some t' →
        l'.offset t'.start = l.offset t.start :=
  (of?_of_isRearranged Options.standard isRearranged_laterPlan (by decide) (by decide +kernel)
    (by decide +kernel)).resolve_right fun h => absurd h.1 (by decide)

end Layout

end Timeline

end Prepress
