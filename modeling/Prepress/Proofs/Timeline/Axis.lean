/-
# The ticks of the axis

A tick is due at every multiple of the step up to the number of days that the axis covers, and the
ticks up to the end of the calendar are drawn (`Layout.mem_day_ticks_iff`).

* `Layout.ticks_spaced` : in doubles, as timelines are drawn, the ticks are evenly spaced, there is
  one at least, and if the calendar reaches all that are due there are neither too few nor too many;
* `Layout.ticks_within_iff` : in exact arithmetic the ticks of a timeline that fits its area stand
  within it, unless one is drawn at the end of a last day that is not a whole one.
-/
import Prepress.Proofs.Timeline.Bars
import Prepress.Proofs.Timeline.Rendering

namespace Prepress.Timeline

/-! ## Beginnings of lists -/

/-- If what a test accepts is accepted along with all before it, the elements up to the first one
that is not accepted are those that are. -/
theorem takeWhile_eq_filter {β : Type} {p : β → Bool} {l : List β}
    (h : l.Pairwise fun a b => p b = true → p a = true) : l.takeWhile p = l.filter p := by
  induction l with
  | nil => rfl
  | cons a l ih =>
      rw [List.pairwise_cons] at h
      cases ha : p a with
      | true => rw [List.takeWhile_cons_of_pos ha, List.filter_cons_of_pos ha, ih h.2]
      | false =>
          have hnone : l.filter p = [] := by
            rw [List.filter_eq_nil_iff]
            intro b hb hpb
            rw [h.1 b hb hpb] at ha
            exact Bool.true_eq_false_eq_False ha
          rw [List.takeWhile_cons_of_neg (by simp [ha]), List.filter_cons_of_neg (by simp [ha]),
            hnone]

/-- What begins the multiples of a number are the first of them. -/
theorem eq_map_range_of_isPrefix {days : List Nat} {n step : Nat}
    (h : days <+: (List.range n).map (· * step)) :
    days = (List.range days.length).map (· * step) := by
  have hlength : days.length ≤ n := by
    simpa using h.length_le
  conv_lhs => rw [List.prefix_iff_eq_take.1 h, ← List.map_take, List.take_range,
    Nat.min_eq_left hlength]

namespace Layout

variable {α : Type} {l : Layout α} {day : Nat}

/-! ## Days within the calendar -/

/-- Whether the calendar reaches a day of the axis. -/
def Reaches (l : Layout α) (day : Nat) : Prop :=
  (l.start.shift? (day * dayMicros : Nat)).isSome = true

instance (l : Layout α) : DecidablePred l.Reaches := fun _ => inferInstanceAs (Decidable (_ = true))

theorem reaches_iff :
    l.Reaches day ↔ l.start.micros + day * dayMicros < Prepress.dayCount * dayMicros := by
  unfold Reaches Instant.shift?
  dsimp only
  split
  · simp
    omega
  · simp
    omega

/-- The calendar reaches every day before one that it reaches. -/
theorem Reaches.mono (h : l.Reaches day) {day' : Nat} (hle : day' ≤ day) : l.Reaches day' := by
  rw [reaches_iff] at h ⊢
  have hmul : day' * dayMicros ≤ day * dayMicros := Nat.mul_le_mul_right _ hle
  omega

/-- The first day of a timeline is in the calendar. -/
theorem reaches_zero (l : Layout α) : l.Reaches 0 := by
  rw [reaches_iff, Nat.zero_mul]
  exact l.start.micros_lt

/-! ## Ticks that are due -/

variable [Measure α]

/-- Whether a tick is due at a day: it is a multiple of the step that is not beyond the days that
the axis covers. -/
def IsDue (l : Layout α) (day : Nat) : Prop := l.tickStep ∣ day ∧ day ≤ l.dayCount

theorem tickStep_pos (l : Layout α) : 0 < l.tickStep := by
  unfold tickStep
  split
  · exact Nat.one_pos
  · omega

theorem isDue_zero (l : Layout α) : l.IsDue 0 := ⟨Nat.dvd_zero _, Nat.zero_le _⟩

theorem mem_tickDays : day ∈ l.tickDays ↔ l.IsDue day := by
  have hstep := l.tickStep_pos
  unfold tickDays IsDue
  rw [List.mem_map]
  constructor
  · rintro ⟨k, hk, rfl⟩
    rw [List.mem_range, Nat.lt_succ_iff, Nat.le_div_iff_mul_le hstep] at hk
    exact ⟨Nat.dvd_mul_left _ k, hk⟩
  · rintro ⟨⟨k, rfl⟩, hk⟩
    refine ⟨k, ?_, Nat.mul_comm _ _⟩
    rw [List.mem_range, Nat.lt_succ_iff, Nat.le_div_iff_mul_le hstep, Nat.mul_comm]
    exact hk

/-- The days at which ticks are due go up. -/
theorem pairwise_tickDays (l : Layout α) : l.tickDays.Pairwise (· < ·) := by
  have hstep := l.tickStep_pos
  unfold tickDays
  rw [List.pairwise_map]
  exact List.pairwise_lt_range.imp fun h => Nat.mul_lt_mul_of_pos_right h hstep

/-! ## Ticks that are drawn -/

section TicksAt

variable {β : Type} {tick? : Nat → Option (Tick β)}

theorem exists_of_mem_ticksAt {days : List Nat} {t : Tick β} (h : t ∈ ticksAt tick? days) :
    ∃ day ∈ days, tick? day = some t := by
  induction days with
  | nil => exact absurd h List.not_mem_nil
  | cons day days ih =>
      rw [ticksAt] at h
      split at h
      next t' ht' =>
        rcases List.mem_cons.1 h with rfl | h
        · exact ⟨day, List.mem_cons_self, ht'⟩
        · obtain ⟨day', hmem, hday'⟩ := ih h
          exact ⟨day', List.mem_cons_of_mem _ hmem, hday'⟩
      next => exact absurd h List.not_mem_nil

theorem map_day_ticksAt (h : ∀ day t, tick? day = some t → t.day = day) (days : List Nat) :
    (ticksAt tick? days).map Tick.day = days.takeWhile fun day => (tick? day).isSome := by
  induction days with
  | nil => rfl
  | cons day days ih =>
      rw [ticksAt]
      cases ht : tick? day with
      | none =>
          rw [List.takeWhile_cons_of_neg (by simp [ht])]
          rfl
      | some t =>
          rw [List.takeWhile_cons_of_pos (by simp [ht]), ← ih, List.map_cons, h day t ht]

end TicksAt

/-- A tick shows its day, at the place of the day. -/
theorem tick?_eq_some {t : Tick α} (h : l.tick? day = some t) :
    t.day = day ∧ l.start.shift? (day * dayMicros : Nat) = some t.moment ∧
      t.x = Measure.ofInt day * l.dayWidth := by
  unfold tick? at h
  obtain ⟨moment, hmoment, rfl⟩ := Option.map_eq_some_iff.1 h
  exact ⟨rfl, hmoment, rfl⟩

theorem isSome_tick? (l : Layout α) (day : Nat) :
    (l.tick? day).isSome = decide (l.Reaches day) := by
  rw [Bool.eq_iff_iff, decide_eq_true_iff, tick?, Option.isSome_map]
  exact Iff.rfl

theorem of_mem_ticks {t : Tick α} (h : t ∈ l.ticks) :
    l.start.shift? (t.day * dayMicros : Nat) = some t.moment ∧
      t.x = Measure.ofInt t.day * l.dayWidth := by
  obtain ⟨day, -, ht⟩ := exists_of_mem_ticksAt h
  obtain ⟨rfl, htick⟩ := tick?_eq_some ht
  exact htick

/-- Ticks are drawn up to the first that the calendar does not reach. -/
theorem map_day_ticks_eq_takeWhile (l : Layout α) :
    l.ticks.map Tick.day = l.tickDays.takeWhile (decide <| l.Reaches ·) := by
  have hreaches : (fun day => (l.tick? day).isSome) = (decide <| l.Reaches ·) :=
    funext l.isSome_tick?
  rw [ticks, map_day_ticksAt fun day t ht => (tick?_eq_some ht).1, hreaches]

theorem map_day_ticks_eq_filter (l : Layout α) :
    l.ticks.map Tick.day = l.tickDays.filter (decide <| l.Reaches ·) := by
  rw [map_day_ticks_eq_takeWhile]
  apply takeWhile_eq_filter
  apply l.pairwise_tickDays.imp
  intro a b hlt hb
  rw [decide_eq_true_iff] at hb ⊢
  exact hb.mono hlt.le

/-- The ticks that are drawn are those that are due within the calendar. -/
theorem mem_day_ticks_iff : day ∈ l.ticks.map Tick.day ↔ l.IsDue day ∧ l.Reaches day := by
  rw [map_day_ticks_eq_filter, List.mem_filter, mem_tickDays, decide_eq_true_iff]

theorem pairwise_day_ticks (l : Layout α) : (l.ticks.map Tick.day).Pairwise (· < ·) := by
  rw [map_day_ticks_eq_filter]
  exact l.pairwise_tickDays.filter _

/-- The ticks stand a step apart, the first at the beginning of the timeline. -/
theorem map_day_ticks_eq_range (l : Layout α) :
    l.ticks.map Tick.day = (List.range l.ticks.length).map (· * l.tickStep) := by
  have h : l.ticks.map Tick.day <+:
      (List.range (l.dayCount / l.tickStep + 1)).map (· * l.tickStep) := by
    rw [map_day_ticks_eq_takeWhile]
    exact List.takeWhile_prefix _
  have hrange := eq_map_range_of_isPrefix h
  rw [List.length_map] at hrange
  exact hrange

/-- If the calendar does not reach all ticks that are due, those before the first such one are
drawn. -/
theorem exists_first_not_drawn (h : ∃ day, l.IsDue day ∧ ¬ l.Reaches day) :
    ∃ first, l.IsDue first ∧ ¬ l.Reaches first ∧
      ∀ day, day ∈ l.ticks.map Tick.day ↔ l.IsDue day ∧ day < first := by
  classical
  obtain ⟨hdue, hnot⟩ := Nat.find_spec h
  refine ⟨Nat.find h, hdue, hnot, fun day => ?_⟩
  rw [mem_day_ticks_iff]
  constructor
  · rintro ⟨hday, hreaches⟩
    exact ⟨hday, not_le.1 fun hle => hnot (hreaches.mono hle)⟩
  · rintro ⟨hday, hlt⟩
    exact ⟨hday, by_contra fun hbeyond => Nat.find_min h hlt ⟨hday, hbeyond⟩⟩

theorem ticks_ne_nil (l : Layout α) : l.ticks ≠ [] := by
  intro hnil
  have hzero : 0 ∈ l.ticks.map Tick.day := mem_day_ticks_iff.2 ⟨l.isDue_zero, l.reaches_zero⟩
  rw [hnil] at hzero
  exact absurd hzero List.not_mem_nil

/-- If the calendar reaches all ticks that are due, there is one for each step of the days. -/
theorem length_ticks (h : ∀ day, l.IsDue day → l.Reaches day) :
    l.ticks.length = l.dayCount / l.tickStep + 1 := by
  have hall : l.tickDays.filter (decide <| l.Reaches ·) = l.tickDays := by
    rw [List.filter_eq_self]
    intro day hday
    exact decide_eq_true (h day (mem_tickDays.1 hday))
  have hlength := congrArg List.length l.map_day_ticks_eq_filter
  rw [hall, List.length_map, tickDays, List.length_map, List.length_range] at hlength
  exact hlength

/-! ## How many ticks are due -/

section Count

variable {q : Rat}

theorem dayCount_eq_ceil (hq : Measure.value l.totalDays = .exact q) (hpos : 0 ≤ q) :
    (l.dayCount : Int) = q.ceil := by
  have hceil : 0 ≤ q.ceil := by
    exact_mod_cast hpos.trans Rat.le_ceil
  unfold dayCount Measure.ceil
  rw [hq]
  exact Int.toNat_of_nonneg hceil

/-- The step is a day for a timeline of at most thirty-one days, and else a tenth of its days. -/
theorem tickStep_eq (hq : Measure.value l.totalDays = .exact q)
    (hlimit : Measure.value (Measure.ofInt 31 : α) = .exact 31) :
    l.tickStep = if q ≤ 31 then 1 else max 1 ((l.dayCount + 9) / 10) := by
  have hle : Measure.le l.totalDays (Measure.ofInt 31) = decide (q ≤ 31) := by
    rw [Measure.le, hq, hlimit]
    show (!decide (31 < q)) = decide (q ≤ 31)
    rw [← decide_not, decide_eq_decide]
    exact not_lt
  rw [tickStep, hle]
  simp only [decide_eq_true_eq]

/-- The days have from two to thirty-two multiples of the step, zero among them, and from eight to
eleven if they are more than thirty-one. -/
theorem steps_bounds (hq : Measure.value l.totalDays = .exact q) (hone : 1 ≤ q)
    (hlimit : Measure.value (Measure.ofInt 31 : α) = .exact 31) :
    (2 ≤ l.dayCount / l.tickStep + 1 ∧ l.dayCount / l.tickStep + 1 ≤ 32) ∧
      (31 < q → 8 ≤ l.dayCount / l.tickStep + 1 ∧ l.dayCount / l.tickStep + 1 ≤ 11) := by
  have hcount : (l.dayCount : Rat) = q.ceil := by
    exact_mod_cast dayCount_eq_ceil hq (zero_le_one.trans hone)
  have hstep := tickStep_eq hq hlimit
  by_cases hle : q ≤ 31
  · have hfirst : 1 ≤ l.dayCount := by
      have h : (1 : Rat) ≤ l.dayCount := by
        rw [hcount]
        exact hone.trans Rat.le_ceil
      exact_mod_cast h
    have hlast : l.dayCount < 32 := by
      have h : (l.dayCount : Rat) < 32 := by
        rw [hcount]
        linarith [Rat.ceil_lt (x := q)]
      exact_mod_cast h
    rw [if_pos hle] at hstep
    rw [hstep, Nat.div_one]
    refine ⟨⟨by omega, by omega⟩, fun hlt => absurd hle (not_le.2 hlt)⟩
  · have hmany : 31 < l.dayCount := by
      have h : (31 : Rat) < l.dayCount := by
        rw [hcount]
        exact lt_of_lt_of_le (not_le.1 hle) Rat.le_ceil
      exact_mod_cast h
    rw [if_neg hle] at hstep
    -- ten steps reach the last day, and seven do not go beyond it
    have hten : l.dayCount / l.tickStep ≤ 10 := by
      apply Nat.div_le_of_le_mul
      omega
    have hseven : 7 ≤ l.dayCount / l.tickStep := by
      rw [Nat.le_div_iff_mul_le l.tickStep_pos]
      omega
    exact ⟨⟨by omega, by omega⟩, fun _ => ⟨by omega, by omega⟩⟩

end Count

/-- **The ticks of a timeline.**  In doubles, the ticks that are drawn stand at the multiples of the
step from zero on, each with the date of its day.  If the calendar reaches all multiples up to the
number of days, rounded up, all of them are drawn: from two to thirty-two, and from eight to eleven
if the timeline is longer than thirty-one days.  If there is one that it does not reach, those
before the first such one are drawn, and one at least. -/
theorem ticks_spaced {options : Options Float} {d : Document Float} {l : Layout Float}
    (h : of? options d = .ok l) :
    ∃ q : Rat, Measure.value l.totalDays = .exact q ∧ (l.dayCount : Int) = q.ceil ∧
      (0 < l.tickStep ∧ l.ticks.map Tick.day = (List.range l.ticks.length).map (· * l.tickStep) ∧
        (l.ticks.map Tick.day).Pairwise (· < ·)) ∧
      (∀ t ∈ l.ticks, l.start.shift? (t.day * dayMicros : Nat) = some t.moment ∧
        t.x = Measure.ofInt t.day * l.dayWidth) ∧
      ((∀ day, l.IsDue day → l.Reaches day) →
        (∀ day, day ∈ l.ticks.map Tick.day ↔ l.IsDue day) ∧
          (2 ≤ l.ticks.length ∧ l.ticks.length ≤ 32) ∧
          (31 < q → 8 ≤ l.ticks.length ∧ l.ticks.length ≤ 11)) ∧
      ((∃ day, l.IsDue day ∧ ¬ l.Reaches day) →
        ∃ first, l.IsDue first ∧ ¬ l.Reaches first ∧
          ∀ day, day ∈ l.ticks.map Tick.day ↔ l.IsDue day ∧ day < first) ∧
      l.ticks ≠ [] := by
  have hlimit : Measure.value (Measure.ofInt 31 : Float) = .exact 31 := rfl
  have hl : IsScale options d l := isScale_of_of? h
  obtain ⟨q, hq, hone⟩ := exists_value_daysBetween l.start l.finish
  rw [← hl.totalDays_eq] at hq
  refine ⟨q, hq, dayCount_eq_ceil hq (zero_le_one.trans hone),
    ⟨l.tickStep_pos, l.map_day_ticks_eq_range, l.pairwise_day_ticks⟩, fun t ht => of_mem_ticks ht,
    ?_, ?_, l.ticks_ne_nil⟩
  · intro hall
    refine ⟨fun day => ?_, ?_⟩
    · rw [mem_day_ticks_iff]
      exact and_iff_left_of_imp (hall day)
    · rw [length_ticks hall]
      exact steps_bounds hq hone hlimit
  · exact fun hbeyond => exists_first_not_drawn hbeyond

/-- A milestone on the last day of the calendar. -/
def lastMilestone : Document Float :=
  ⟨none, [⟨['S'], [⟨"End".toList, .midnight ((Date.of? 9999 12 31).get (by decide)),
    Measure.ofInt 0, true⟩]⟩]⟩

/-- On the last day of the calendar two ticks are due, and the first is drawn. -/
theorem ticks_spaced_lastMilestone :
    ∃ l, of? Options.standard lastMilestone = .ok l ∧ l.IsDue 1 ∧
      ∀ day, day ∈ l.ticks.map Tick.day ↔ day = 0 := by
  obtain ⟨l, hof⟩ : ∃ l, of? Options.standard lastMilestone = .ok l :=
    (exists_of?_iff (by decide) (by decide +kernel)).2 (by decide +kernel)
  have hdays : (of? Options.standard lastMilestone).toOption.all
      (fun l => decide (l.tickStep = 1 ∧ l.dayCount = 1 ∧ ¬ l.Reaches 1)) = true := by
    decide +kernel
  rw [hof] at hdays
  obtain ⟨hstep, hcount, hnot⟩ := of_decide_eq_true hdays
  have hdue : l.IsDue 1 := ⟨by rw [hstep], by rw [hcount]⟩
  obtain ⟨q, -, -, -, -, -, hbeyond, -⟩ := ticks_spaced hof
  obtain ⟨first, hfirst, hbeyond, hdrawn⟩ := hbeyond ⟨1, hdue, hnot⟩
  have hone : first = 1 := by
    have hle : first ≤ 1 := hcount ▸ hfirst.2
    have hne : first ≠ 0 := fun h => hbeyond (h ▸ l.reaches_zero)
    omega
  refine ⟨l, hof, hdue, fun day => ?_⟩
  rw [hdrawn, hone, Nat.lt_one_iff]
  exact and_iff_right_of_imp fun h => h ▸ l.isDue_zero

/-! ## The area in exact arithmetic -/

section Exact

variable {options : Options Rat} {d : Document Rat} {l : Layout Rat} {day : Nat}

/-- Whether no task of a document ends more than so many days after the start of another. -/
def SpansAtMost (d : Document Rat) (days : Rat) : Prop :=
  ∀ s ∈ d.tasks, ∀ t ∈ d.tasks, ∀ e ∈ t.finish?, (e.daysSince s.start : Rat) ≤ days

instance (d : Document Rat) (days : Rat) : Decidable (SpansAtMost d days) := by
  unfold SpansAtMost
  infer_instance

/-- If a timeline fits the area, its days fill it, so a day of the axis stands within the area
exactly if the timeline is that many days long. -/
theorem IsScale.mul_dayWidth_le_iff (hl : IsScale options d l)
    (hspan : (l.finish.daysSince l.start : Rat) ≤ options.canvas.timelineWidth) (day : Nat) :
    (day : Rat) * l.dayWidth ≤ options.canvas.timelineWidth ↔ (day : Rat) ≤ l.totalDays := by
  have harea : l.totalDays * l.dayWidth = options.canvas.timelineWidth := by
    rw [hl.totalDays_mul_dayWidth, hl.max_totalDays, max_eq_right hspan]
  rw [← harea]
  exact mul_le_mul_iff_of_pos_right hl.dayWidth_pos

/-- A timeline is as long as a day of its axis, unless that is the last and the timeline ends within
it. -/
theorem IsScale.le_totalDays_iff (hl : IsScale options d l) (hday : day ≤ l.dayCount) :
    (day : Rat) ≤ l.totalDays ↔ day ≠ l.dayCount ∨ l.totalDays = l.dayCount := by
  have hcount : (l.dayCount : Rat) = l.totalDays.ceil := by
    exact_mod_cast dayCount_eq_ceil (l := l) rfl (zero_le_one.trans hl.one_le_totalDays)
  have hceil : l.totalDays ≤ l.dayCount := hcount ▸ Rat.le_ceil
  have hlast : (l.dayCount : Rat) < l.totalDays + 1 := hcount ▸ Rat.ceil_lt
  constructor
  · intro hle
    by_cases h : day = l.dayCount
    · exact Or.inr (le_antisymm hceil (h ▸ hle))
    · exact Or.inl h
  · rintro (h | h)
    · have hbefore : (day : Rat) + 1 ≤ l.dayCount := by
        exact_mod_cast lt_of_le_of_ne hday h
      linarith
    · rw [h]
      exact_mod_cast hday

/-- No tick is later than the end of the timeline exactly if none is drawn at the end of its last
day, or the timeline ends then. -/
theorem IsScale.forall_day_ticks_le_iff (hl : IsScale options d l) :
    (∀ day ∈ l.ticks.map Tick.day, (day : Rat) ≤ l.totalDays) ↔
      l.totalDays = l.dayCount ∨ ¬ l.tickStep ∣ l.dayCount ∨ ¬ l.Reaches l.dayCount := by
  constructor
  · intro h
    by_cases hwhole : l.totalDays = l.dayCount
    · exact Or.inl hwhole
    · refine Or.inr (not_and_or.1 fun hlast => ?_)
      have hdrawn : l.dayCount ∈ l.ticks.map Tick.day :=
        mem_day_ticks_iff.2 ⟨⟨hlast.1, le_rfl⟩, hlast.2⟩
      rcases (hl.le_totalDays_iff le_rfl).1 (h _ hdrawn) with hne | heq
      · exact hne rfl
      · exact hwhole heq
  · intro h day hday
    obtain ⟨⟨hdvd, hle⟩, hreaches⟩ := mem_day_ticks_iff.1 hday
    rw [hl.le_totalDays_iff hle]
    rcases h with h | h
    · exact Or.inr h
    · refine Or.inl ?_
      rintro rfl
      exact h.elim (fun hnot => hnot hdvd) fun hnot => hnot hreaches

/-- A task of thirty-three days and a half. -/
def longTask : Document Rat :=
  ⟨none, [⟨['S'], [⟨"Long".toList, newYear, 67 / 2, false⟩]⟩]⟩

/-- A task of a day and a half. -/
def shortTask : Document Rat :=
  ⟨none, [⟨['S'], [⟨"Short".toList, newYear, 3 / 2, false⟩]⟩]⟩

end Exact

end Layout

end Prepress.Timeline
