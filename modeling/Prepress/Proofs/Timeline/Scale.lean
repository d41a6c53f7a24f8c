/-
# The scale of a timeline

A timeline runs from the earliest start to the latest end of its tasks, and its days share the area
that the bars are drawn in (`Layout.isScale_of_of?`).  A day is at least one unit wide, so a timeline
of more days than the area is units wide grows out of it.

* `Layout.ends_within_iff` : in exact arithmetic all tasks end within the area exactly when no task
  ends more days after the start of another than the area is units wide.
-/
import Mathlib.Tactic.Linarith
import Prepress.Proofs.Number.Exact
import Prepress.Timeline.Layout

namespace Prepress

/-! ## The first and the last of some moments -/

section Choice

variable {β : Type} {op : β → β → β}

/-- A fold that chooses one of two at each step ends with one of all. -/
theorem foldl_mem_of_choice (hop : ∀ a b, op a b = a ∨ op a b = b) (first : β) (rest : List β) :
    rest.foldl op first ∈ first :: rest := by
  induction rest generalizing first with
  | nil => exact List.mem_singleton_self first
  | cons b rest ih =>
      rw [List.foldl_cons]
      rcases hop first b with h | h
      · rw [h]
        rcases List.mem_cons.1 (ih first) with he | hm
        · exact List.mem_cons.2 (Or.inl he)
        · exact List.mem_cons_of_mem _ (List.mem_cons_of_mem _ hm)
      · rw [h]
        exact List.mem_cons_of_mem _ (ih b)

/-- A fold whose steps are bounds of their operands ends with a bound of all. -/
theorem foldl_bound {R : β → β → Prop} (hrefl : ∀ a, R a a)
    (htrans : ∀ a b c, R a b → R b c → R a c) (hl : ∀ a b, R (op a b) a)
    (hr : ∀ a b, R (op a b) b) (first : β) (rest : List β) :
    ∀ b ∈ first :: rest, R (rest.foldl op first) b := by
  induction rest generalizing first with
  | nil =>
      intro b hb
      rw [List.mem_singleton.1 hb]
      exact hrefl first
  | cons c rest ih =>
      intro b hb
      rw [List.foldl_cons]
      have hstep : R (rest.foldl op (op first c)) (op first c) :=
        ih (op first c) _ List.mem_cons_self
      rcases List.mem_cons.1 hb with rfl | hb
      · exact htrans _ _ _ hstep (hl b c)
      rcases List.mem_cons.1 hb with rfl | hb
      · exact htrans _ _ _ hstep (hr first b)
      · exact ih (op first c) b (List.mem_cons_of_mem _ hb)

end Choice

namespace Instant

theorem earlier_eq_or (a b : Instant) : a.earlier b = a ∨ a.earlier b = b := by
  unfold earlier
  by_cases h : b.micros < a.micros
  · rw [if_pos h]
    exact Or.inr rfl
  · rw [if_neg h]
    exact Or.inl rfl

theorem later_eq_or (a b : Instant) : a.later b = a ∨ a.later b = b := by
  unfold later
  by_cases h : a.micros < b.micros
  · rw [if_pos h]
    exact Or.inr rfl
  · rw [if_neg h]
    exact Or.inl rfl

theorem micros_earlier (a b : Instant) : (a.earlier b).micros = min a.micros b.micros := by
  unfold earlier
  split <;> omega

theorem micros_later (a b : Instant) : (a.later b).micros = max a.micros b.micros := by
  unfold later
  split <;> omega

end Instant

namespace Timeline

variable {α : Type}

theorem isSome_mapM {β γ : Type} {f : β → Option γ} {l : List β}
    (h : ∀ b ∈ l, (f b).isSome = true) : (l.mapM f).isSome = true := by
  induction l with
  | nil => rfl
  | cons b l ih =>
      obtain ⟨c, hc⟩ := Option.isSome_iff_exists.1 (h b (by simp))
      obtain ⟨cs, hcs⟩ :=
        Option.isSome_iff_exists.1 (ih fun d hd => h d (List.mem_cons_of_mem b hd))
      rw [List.mapM_cons, hc, hcs]
      rfl

theorem map_eq_of_mapM {β γ : Type} {f : β → Option γ} {l : List β} {l' : List γ}
    (h : l.mapM f = some l') : l.map f = l'.map some := by
  induction l generalizing l' with
  | nil =>
      rw [List.mapM_nil] at h
      rw [← Option.some.inj h]
      rfl
  | cons b l ih =>
      rw [List.mapM_cons] at h
      obtain ⟨c, hc, h⟩ := Option.bind_eq_some_iff.1 h
      obtain ⟨cs, hcs, h⟩ := Option.bind_eq_some_iff.1 h
      rw [← Option.some.inj h, List.map_cons, List.map_cons, hc, ih hcs]

namespace Layout

/-! ## The span of the tasks -/

theorem earliestStart_eq (first : Task α) (rest : List (Task α)) :
    earliestStart first rest = (rest.map Task.start).foldl Instant.earlier first.start :=
  List.foldl_map.symm

/-- No task begins before the earliest start. -/
theorem earliestStart_le (first : Task α) (rest : List (Task α)) :
    ∀ t ∈ first :: rest, (earliestStart first rest).micros ≤ t.start.micros := by
  intro t ht
  have hm : t.start ∈ first.start :: rest.map Task.start := List.mem_map_of_mem ht
  rw [earliestStart_eq]
  apply foldl_bound (R := fun a b : Instant => a.micros ≤ b.micros) _ _ _ _ _ _ _ hm
  · exact fun a => le_refl a.micros
  · exact fun a b c => le_trans
  · intro a b
    rw [Instant.micros_earlier]
    exact min_le_left _ _
  · intro a b
    rw [Instant.micros_earlier]
    exact min_le_right _ _

/-- The earliest start is the start of a task. -/
theorem exists_start_eq (first : Task α) (rest : List (Task α)) :
    ∃ t ∈ first :: rest, t.start = earliestStart first rest := by
  have hm := foldl_mem_of_choice Instant.earlier_eq_or first.start (rest.map Task.start)
  rw [← earliestStart_eq, ← List.map_cons] at hm
  exact List.mem_map.1 hm

/-- No moment is later than the latest. -/
theorem le_latest (first : Instant) (rest : List Instant) :
    ∀ i ∈ first :: rest, i.micros ≤ (latest first rest).micros := by
  apply foldl_bound (R := fun a b : Instant => b.micros ≤ a.micros)
  · exact fun a => le_refl a.micros
  · exact fun a b c hab hbc => le_trans hbc hab
  · intro a b
    rw [Instant.micros_later]
    exact le_max_left _ _
  · intro a b
    rw [Instant.micros_later]
    exact le_max_right _ _

/-- The latest moment is one of them. -/
theorem latest_mem (first : Instant) (rest : List Instant) :
    latest first rest ∈ first :: rest :=
  foldl_mem_of_choice Instant.later_eq_or first rest

/-! ## What a scale is -/

variable [Measure α]

/-- A scale of a document: it begins with the earliest start and ends with the latest end of a task,
and its days share the area between the labels and the right margin. -/
structure IsScale (options : Options α) (d : Document α) (l : Layout α) : Prop where
  start_le : ∀ t ∈ d.tasks, l.start.micros ≤ t.start.micros
  exists_start : ∃ t ∈ d.tasks, t.start = l.start
  le_finish : ∀ t ∈ d.tasks, ∀ e, t.finish? = some e → e.micros ≤ l.finish.micros
  exists_finish : ∃ t ∈ d.tasks, t.finish? = some l.finish
  totalDays_eq : l.totalDays = daysBetween l.start l.finish
  dayWidth_eq : ∃ width, Measure.ofInt? options.canvas.timelineWidth = some width ∧
    l.dayWidth = Measure.greater (Measure.ofInt 1) (width / l.totalDays)
  height_eq : l.height = heightFor options d.rowCount

/-- What a document with a scale is made of: its tasks all end within the calendar, and the timeline
runs from the earliest start to the latest of the ends. -/
theorem exists_ends_of_of? {options : Options α} {d : Document α} {l : Layout α}
    (h : of? options d = .ok l) :
    ∃ first rest firstEnd ends width, d.tasks = first :: rest ∧
      (first :: rest).map Task.finish? = (firstEnd :: ends).map some ∧
      Measure.ofInt? options.canvas.timelineWidth = some width ∧
      l.start = earliestStart first rest ∧ l.finish = latest firstEnd ends ∧
      l.totalDays = daysBetween l.start l.finish ∧
      l.dayWidth = Measure.greater (Measure.ofInt 1) (width / l.totalDays) ∧
      l.height = heightFor options d.rowCount := by
  rw [of?] at h
  split at h
  · exact absurd h (by simp)
  next first rest htasks =>
    split at h
    · next firstEnd ends width hfirst hends hwidth =>
        refine ⟨first, rest, firstEnd, ends, width, htasks, ?_, hwidth, ?_⟩
        · rw [List.map_cons, List.map_cons, hfirst, map_eq_of_mapM hends]
        · rw [← Except.ok.inj h]
          exact ⟨rfl, rfl, rfl, rfl, rfl⟩
    · exact absurd h (by simp)

/-- All tasks of a document with a scale end within the calendar. -/
theorem isSome_finish?_of_of? {options : Options α} {d : Document α} {l : Layout α}
    (h : of? options d = .ok l) : ∀ t ∈ d.tasks, t.finish?.isSome = true := by
  obtain ⟨first, rest, firstEnd, ends, -, htasks, hmap, -⟩ := exists_ends_of_of? h
  rw [htasks]
  intro t ht
  have hm : t.finish? ∈ (firstEnd :: ends).map some := by
    rw [← hmap]
    exact List.mem_map_of_mem ht
  obtain ⟨e, -, he⟩ := List.mem_map.1 hm
  rw [← he]
  rfl

/-- The scale that a document is given is a scale of it. -/
theorem isScale_of_of? {options : Options α} {d : Document α} {l : Layout α}
    (h : of? options d = .ok l) : IsScale options d l := by
  obtain ⟨first, rest, firstEnd, ends, width, htasks, hmap, hwidth, hstart, hfinish, hdays, hday,
    hheight⟩ := exists_ends_of_of? h
  refine ⟨?_, ?_, ?_, ?_, hdays, ⟨width, hwidth, hday⟩, hheight⟩
  · rw [htasks, hstart]
    exact earliestStart_le first rest
  · rw [htasks, hstart]
    exact exists_start_eq first rest
  · rw [htasks, hfinish]
    intro t ht e he
    -- the ends stand in the order of the tasks
    have hm : some e ∈ (firstEnd :: ends).map some := by
      rw [← hmap, ← he]
      exact List.mem_map_of_mem ht
    obtain ⟨i, hi, hie⟩ := List.mem_map.1 hm
    rw [← Option.some.inj hie]
    exact le_latest firstEnd ends i hi
  · rw [htasks, hfinish]
    have hm : some (latest firstEnd ends) ∈ (first :: rest).map Task.finish? := by
      rw [hmap]
      exact List.mem_map_of_mem (latest_mem firstEnd ends)
    exact List.mem_map.1 hm

/-- A document with tasks within the calendar has a scale exactly when the width of the area is a
number. -/
theorem exists_of?_iff {options : Options α} {d : Document α} (hd : d.tasks ≠ [])
    (he : ∀ t ∈ d.tasks, t.finish?.isSome = true) :
    (∃ l, of? options d = .ok l) ↔
      (Measure.ofInt? options.canvas.timelineWidth : Option α).isSome = true := by
  obtain ⟨first, rest, htasks⟩ := List.exists_cons_of_ne_nil hd
  rw [htasks, List.forall_mem_cons] at he
  obtain ⟨firstEnd, hfirst⟩ := Option.isSome_iff_exists.1 he.1
  obtain ⟨ends, hends⟩ := Option.isSome_iff_exists.1 (isSome_mapM he.2)
  unfold of?
  rw [htasks]
  dsimp only
  rw [hfirst, hends]
  cases (Measure.ofInt? options.canvas.timelineWidth : Option α) with
  | none => simp
  | some width => simp

/-! ## The area in exact arithmetic -/

/-- A place is left of the right margin if it is in the area that the bars are drawn in. -/
theorem labelWidth_add_le_iff (c : Canvas) (x : Rat) :
    c.labelWidth + x ≤ (c.width - c.rightMargin : Rat) ↔ x ≤ c.timelineWidth := by
  unfold Canvas.timelineWidth
  push_cast
  constructor <;> intro h <;> linarith

section Exact

variable {options : Options Rat} {d : Document Rat} {l : Layout Rat}

namespace IsScale

theorem totalDays_rat (hl : IsScale options d l) :
    l.totalDays = max 1 (l.finish.daysSince l.start) := by
  rw [hl.totalDays_eq, daysBetween, Measure.greater_rat, Measure.ofInt_rat]
  rfl

theorem dayWidth_rat (hl : IsScale options d l) :
    l.dayWidth = max 1 ((options.canvas.timelineWidth : Rat) / l.totalDays) := by
  obtain ⟨width, hwidth, hday⟩ := hl.dayWidth_eq
  rw [Measure.ofInt?_rat] at hwidth
  rw [hday, Measure.greater_rat, Measure.ofInt_rat, Option.some.inj hwidth]
  rfl

/-- The days of a timeline fill the area, or more than it. -/
theorem totalDays_mul_dayWidth (hl : IsScale options d l) :
    l.totalDays * l.dayWidth = max l.totalDays options.canvas.timelineWidth := by
  have hpos : (0 : Rat) < l.totalDays := by
    rw [hl.totalDays_rat]
    exact lt_of_lt_of_le one_pos (le_max_left _ _)
  rw [hl.dayWidth_rat, mul_max_of_nonneg _ _ hpos.le, mul_one, mul_div_cancel₀ _ hpos.ne']

theorem one_le_timelineWidth (c : Canvas) : (1 : Rat) ≤ c.timelineWidth := by
  exact_mod_cast c.timelineWidth_pos

/-- The timeline ends where its days are over, or where the area ends if that is farther. -/
theorem max_totalDays (hl : IsScale options d l) :
    max l.totalDays options.canvas.timelineWidth
      = max (l.finish.daysSince l.start : Rat) options.canvas.timelineWidth := by
  have h1 := one_le_timelineWidth options.canvas
  rw [hl.totalDays_rat, max_comm 1, max_assoc, max_eq_right h1]

/-- A task ends at most where the timeline does. -/
theorem offset_le (hl : IsScale options d l) {t : Task Rat} (ht : t ∈ d.tasks) {e : Instant}
    (he : t.finish? = some e) :
    l.offset e ≤ max (l.finish.daysSince l.start : Rat) options.canvas.timelineWidth := by
  have hdays : (e.daysSince l.start : Rat) ≤ l.totalDays := by
    rw [hl.totalDays_rat]
    apply le_max_of_le_right
    exact Instant.daysSince_le_daysSince (hl.le_finish t ht e he) le_rfl
  have hwidth : (0 : Rat) ≤ l.dayWidth := by
    rw [hl.dayWidth_rat]
    exact le_max_of_le_left one_pos.le
  calc l.offset e ≤ l.totalDays * l.dayWidth := mul_le_mul_of_nonneg_right hdays hwidth
    _ = max l.totalDays options.canvas.timelineWidth := hl.totalDays_mul_dayWidth
    _ = _ := hl.max_totalDays

/-- A timeline of more days than the area is units wide takes a unit for each of its days. -/
theorem offset_finish (hl : IsScale options d l)
    (hlong : (options.canvas.timelineWidth : Rat) < l.finish.daysSince l.start) :
    l.offset l.finish = l.finish.daysSince l.start := by
  have h1 := one_le_timelineWidth options.canvas
  have htotal : l.totalDays = l.finish.daysSince l.start := by
    rw [hl.totalDays_rat]
    exact max_eq_right (h1.trans hlong.le)
  calc l.offset l.finish = l.totalDays * l.dayWidth := by rw [htotal]; rfl
    _ = max l.totalDays options.canvas.timelineWidth := hl.totalDays_mul_dayWidth
    _ = l.finish.daysSince l.start := by rw [htotal]; exact max_eq_left hlong.le

/-- The span of the timeline is the longest time from a start to an end of a task. -/
theorem span_le_iff (hl : IsScale options d l) (q : Rat) :
    (l.finish.daysSince l.start : Rat) ≤ q ↔
      ∀ s ∈ d.tasks, ∀ t ∈ d.tasks, ∀ e, t.finish? = some e → (e.daysSince s.start : Rat) ≤ q := by
  constructor
  · intro h s hs t ht e he
    exact (Instant.daysSince_le_daysSince (hl.le_finish t ht e he) (hl.start_le s hs)).trans h
  · intro h
    obtain ⟨s, hs, hstart⟩ := hl.exists_start
    obtain ⟨t, ht, hfinish⟩ := hl.exists_finish
    rw [← hstart]
    exact h s hs t ht _ hfinish

end IsScale

/-- In exact arithmetic, all tasks end within the area that the bars are drawn in exactly when none
ends more days after the start of another than the area is units wide.  The days of a longer document
are one unit wide, and no task ends beyond as many units as the document has days. -/
theorem ends_within_iff (options : Options Rat) {d : Document Rat} (hd : d.tasks ≠ [])
    (he : ∀ t ∈ d.tasks, t.finish?.isSome = true) :
    ∃ l, of? options d = .ok l ∧
      ((∀ t ∈ d.tasks, ∀ e, t.finish? = some e →
          options.canvas.labelWidth + l.offset e
            ≤ (options.canvas.width - options.canvas.rightMargin : Rat)) ↔
        ∀ s ∈ d.tasks, ∀ t ∈ d.tasks, ∀ e, t.finish? = some e →
          (e.daysSince s.start : Rat) ≤ options.canvas.timelineWidth) ∧
      ∀ t ∈ d.tasks, ∀ e, t.finish? = some e →
        l.offset e ≤ max (l.finish.daysSince l.start : Rat) options.canvas.timelineWidth := by
  have hwidth : (Measure.ofInt? options.canvas.timelineWidth : Option Rat).isSome = true := by
    rw [Measure.ofInt?_rat]
    rfl
  obtain ⟨l, hof⟩ := (exists_of?_iff hd he).2 hwidth
  have hl : IsScale options d l := isScale_of_of? hof
  refine ⟨l, hof, ?_, fun t ht e => hl.offset_le ht⟩
  have harea := labelWidth_add_le_iff options.canvas
  rw [← hl.span_le_iff]
  constructor
  · -- the last task would end beyond the area
    intro h
    by_contra hlong
    rw [not_le] at hlong
    obtain ⟨t, ht, hfinish⟩ := hl.exists_finish
    have hlast := (harea _).1 (h t ht _ hfinish)
    rw [hl.offset_finish hlong] at hlast
    exact absurd hlast (not_le.2 hlong)
  · intro h t ht e hfinish
    rw [harea]
    exact (hl.offset_le ht hfinish).trans (max_le h le_rfl)

end Exact

/-- The first day of a project. -/
def projectStart : Instant := .midnight ((Date.of? 2020 1 1).get (by decide))

/-- The day a thousand days after it. -/
def projectEnd : Instant := .midnight ((Date.of? 2022 9 27).get (by decide))

/-- A task of a thousand days and a milestone at its end. -/
def project : Document Rat :=
  ⟨none, [⟨['S'], [⟨['A'], projectStart, 1000, false⟩, ⟨"End".toList, projectEnd, 0, true⟩]⟩]⟩

theorem finish?_project : ∀ t ∈ project.tasks, t.finish? = some projectEnd := by
  decide +kernel

theorem isSome_finish?_project : ∀ t ∈ project.tasks, t.finish?.isSome = true := by
  intro t ht
  rw [finish?_project t ht]
  rfl

/-- On the standard canvas the project ends beyond the right margin. -/
theorem project_outside :
    ∃ l, of? Options.standard project = .ok l ∧ ∃ t ∈ project.tasks, ∃ e, t.finish? = some e ∧
      (Canvas.standard.width - Canvas.standard.rightMargin : Rat)
        < Canvas.standard.labelWidth + l.offset e := by
  obtain ⟨l, hof⟩ := (exists_of?_iff (by decide) isSome_finish?_project).2 rfl
  have hl : IsScale Options.standard project l := isScale_of_of? hof
  have hlong : (Canvas.standard.timelineWidth : Rat) < l.finish.daysSince l.start := by
    -- that the project spans a thousand days shows on the start of one task and its end
    have hspan : ∃ s ∈ project.tasks, ¬ (projectEnd.daysSince s.start : Rat)
        ≤ Canvas.standard.timelineWidth := by
      decide +kernel
    obtain ⟨s, hs, hspan⟩ := hspan
    rw [← not_le, hl.span_le_iff]
    exact fun h => hspan (h s hs s hs projectEnd (finish?_project s hs))
  have harea : (Canvas.standard.width - Canvas.standard.rightMargin : Rat)
      = Canvas.standard.labelWidth + Canvas.standard.timelineWidth := by
    decide +kernel
  obtain ⟨t, ht, hfinish⟩ := hl.exists_finish
  refine ⟨l, hof, t, ht, l.finish, hfinish, ?_⟩
  rw [hl.offset_finish hlong, harea]
  exact add_lt_add_right hlong _

/-- A canvas with an area of a thousand units. -/
def projectCanvas : Canvas :=
  { Canvas.standard with width := 1220, width_pos := by decide, room := by decide }

/-- On a canvas with an area of a thousand units the project ends at the right margin. -/
theorem ends_within_project :
    ∃ l, of? { Options.standard with canvas := projectCanvas } project = .ok l ∧
      ∀ t ∈ project.tasks, ∀ e, t.finish? = some e →
        projectCanvas.labelWidth + l.offset e
          ≤ (projectCanvas.width - projectCanvas.rightMargin : Rat) := by
  have hdays : ∀ s ∈ project.tasks,
      (projectEnd.daysSince s.start : Rat) ≤ projectCanvas.timelineWidth := by
    decide +kernel
  obtain ⟨l, hof, hwithin, -⟩ :=
    ends_within_iff { Options.standard with canvas := projectCanvas } (by decide)
      isSome_finish?_project
  refine ⟨l, hof, hwithin.2 ?_⟩
  intro s hs t ht e hfinish
  rw [finish?_project t ht] at hfinish
  rw [← Option.some.inj hfinish]
  exact hdays s hs

end Layout

end Timeline

end Prepress
