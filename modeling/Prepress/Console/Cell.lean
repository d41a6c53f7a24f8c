/-
# Cells

Every character takes no cell of a console, one or two.  A joiner takes the cells of the character
after it, and an emoji mark gives some characters of one cell a second one.  A tabulator is a
space, with more of them up to the next stop, and there is a stop after every eight cells.
-/
import Prepress.Console.CellTable

namespace Prepress.Console

/-! ## Characters -/

/-- The number of cells that a character takes by itself. -/
def cells (c : Char) : Nat :=
  if Text.inRanges noCellRanges c then 0 else if Text.inRanges wideRanges c then 2 else 1

/-- The character that joins the ones around it to a single sign. -/
def joiner : Char := Char.ofNat 0x200D

/-- The character that asks for the one before it to be shown as emoji. -/
def emojiMark : Char := Char.ofNat 0xFE0F

/-! ## Cursors -/

/-- The place that a line has come to: the cells before it, the last character with a cell since
the last stop, if no emoji mark has followed it, and whether a joiner has come last. -/
structure Cursor where
  position : Nat
  last : Option Char
  joined : Bool
deriving DecidableEq

/-- The cursor at a position where nothing can be joined or marked. -/
def Cursor.at (position : Nat) : Cursor := ⟨position, none, false⟩

/-- The cursor after a character. -/
def Cursor.after (k : Cursor) (c : Char) : Cursor :=
  if k.joined then { k with joined := false }
  else if c = joiner then { k with joined := true }
  else if c = emojiMark then
    let widened := k.last.any (Text.inRanges emojiWideRanges)
    { k with position := k.position + (if widened then 1 else 0), last := none }
  else if cells c = 0 then k
  else { k with position := k.position + cells c, last := some c }

/-- A cursor never goes back. -/
theorem Cursor.position_le_after (k : Cursor) (c : Char) : k.position ≤ (k.after c).position := by
  unfold Cursor.after
  split
  · exact Nat.le_refl _
  · split
    · exact Nat.le_refl _
    · split
      · exact Nat.le_add_right _ _
      · split
        · exact Nat.le_refl _
        · exact Nat.le_add_right _ _

/-! ## Stops -/

/-- The number of cells between two stops. -/
def stopDistance : Nat := 8

/-- The number of cells from a position to the first stop that is not before it. -/
def toStop (position : Nat) : Nat :=
  (stopDistance - position % stopDistance) % stopDistance

/-- No more cells lead to a stop than there are between two of them. -/
theorem toStop_lt (position : Nat) : toStop position < stopDistance :=
  Nat.mod_lt _ (by decide)

/-- The cells lead to a stop. -/
theorem stopDistance_dvd_add_toStop (position : Nat) :
    stopDistance ∣ position + toStop position := by
  unfold toStop stopDistance
  omega

/-- The text after a cursor with spaces in the place of its tabulators. -/
def withoutTabs (k : Cursor) : Text → Text
  | [] => []
  | c :: t =>
    if c = '\t' then
      let position := (k.after ' ').position
      ' ' :: List.replicate (toStop position) ' '
        ++ withoutTabs (.at (position + toStop position)) t
    else if c = '\n' then c :: withoutTabs (.at 0) t
    else c :: withoutTabs (k.after c) t

/-- No tabulator is left. -/
theorem tab_not_mem_withoutTabs (k : Cursor) (t : Text) : '\t' ∉ withoutTabs k t := by
  induction t generalizing k with
  | nil => simp [withoutTabs]
  | cons c t ih =>
    simp only [withoutTabs]
    split
    · simp [ih]
    · next hc =>
      split
      · next hl => simp [ih, hl]
      · simp [ih, Ne.symm hc]

end Prepress.Console
