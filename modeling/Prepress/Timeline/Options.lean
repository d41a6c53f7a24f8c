/-
# Options of a timeline

The canvas that a timeline is drawn on, and how its parts are drawn.
-/
import Prepress.Fault
import Prepress.Number.Measure

namespace Prepress.Timeline

/-! ## The canvas -/

/-- The horizontal division of the canvas and the heights of its head and of its rows.  The
label column and the right margin leave room between them. -/
structure Canvas where
  width : Int
  labelWidth : Int
  rightMargin : Int
  rowHeight : Int
  headerHeight : Int
  width_pos : 0 < width
  rowHeight_pos : 0 < rowHeight
  headerHeight_nonneg : 0 ≤ headerHeight
  room : labelWidth + rightMargin < width

namespace Canvas

/-- The canvas with the given measurements, or what is wrong with them. -/
def of? (width labelWidth rightMargin rowHeight headerHeight : Int) : Except Cause Canvas :=
  if h : 0 < width ∧ 0 < rowHeight ∧ 0 ≤ headerHeight then
    if hr : labelWidth + rightMargin < width then
      .ok ⟨width, labelWidth, rightMargin, rowHeight, headerHeight, h.1, h.2.1, h.2.2, hr⟩
    else .error (.canvasWithoutRoom width labelWidth rightMargin)
  else .error .canvasNotPositive

/-- The canvas of a timeline whose options say nothing about it. -/
def standard : Canvas :=
  ⟨900, 200, 20, 28, 40, by decide, by decide, by decide, by decide⟩

/-- The width of the area that the bars are drawn in. -/
def timelineWidth (c : Canvas) : Int := c.width - c.labelWidth - c.rightMargin

theorem timelineWidth_pos (c : Canvas) : 0 < c.timelineWidth := by
  have := c.room
  simp only [timelineWidth]
  omega

end Canvas

/-! ## All options -/

/-- The options of a timeline. -/
structure Options (α : Type) where
  canvas : Canvas
  minBodyHeight : Int
  milestoneSize : α
  minBarWidth : α
  barHeight : Int
  labelFont : Text
  labelFontSize : α
  truncateLabels : Bool
  ignoredDirectives : List Text
  emptyMessage : Text

/-- The options of a timeline that says nothing about them. -/
def Options.standard {α : Type} [Measure α] : Options α where
  canvas := Canvas.standard
  minBodyHeight := 200
  milestoneSize := Measure.ofInt 8
  minBarWidth := Measure.ofInt 2
  barHeight := 12
  labelFont := "Helvetica".toList
  labelFontSize := Measure.ofInt 12
  truncateLabels := false
  ignoredDirectives := ["dateformat".toList, "axisformat".toList]
  emptyMessage := "<pre>No tasks parsed in timeline</pre>".toList

end Prepress.Timeline
