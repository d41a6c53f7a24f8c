/-
# Ranges of code points

A class of characters is a list of ranges, each with its first and last code point.
-/
import Prepress.Text.Blank

namespace Prepress.Text

/-- The first and the last code point of a range. -/
abbrev Range := Nat × Nat

/-- Whether a character lies in one of the ranges. -/
def inRanges (ranges : List Range) (c : Char) : Bool :=
  ranges.any fun r => r.1 ≤ c.toNat && c.toNat ≤ r.2

theorem inRanges_iff {ranges : List Range} {c : Char} :
    inRanges ranges c = true ↔ ∃ r ∈ ranges, r.1 ≤ c.toNat ∧ c.toNat ≤ r.2 := by
  simp [inRanges]

end Prepress.Text
