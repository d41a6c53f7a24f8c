/-
# Texts that fit

A beginning of a text is shortened until it has room, one character at a time, so what is left is
the longest beginning that has room (`isLongestBeginning_shorten`).  In exact arithmetic the width
of a text is put together from the widths of its characters, none of which is negative
(`IsAdditive`), and no beginning of a text is wider than the text.

* `cutToFit_longest` : a text that is too wide is cut to its longest beginning that has room for an
  ellipsis, and what is shown stays within the limit if the ellipsis does.
-/
import Mathlib.Algebra.BigOperators.Group.List.Basic
import Mathlib.Algebra.Order.Field.Rat
import Mathlib.Data.Rat.Cast.Order
import Mathlib.Tactic.Linarith
import Mathlib.Tactic.Positivity
import Mathlib.Tactic.Ring
import Prepress.Font.Metrics
import Prepress.Proofs.Number.Exact
import Prepress.Proofs.Text.Sublist

namespace Prepress.Font

open Text
open scoped List

/-! ## The longest beginning -/

theorem shorten_isPrefix (fits : Text → Bool) (t : Text) : shorten fits t <+: t := by
  fun_induction shorten fits t with
  | case1 t _ => exact List.prefix_rfl
  | case2 t _ ih => exact ih.trans (List.dropLast_prefix t)

/-- A beginning is shortened until it has room or nothing is left. -/
theorem fits_shorten_or (fits : Text → Bool) (t : Text) :
    fits (shorten fits t) = true ∨ shorten fits t = [] := by
  fun_induction shorten fits t with
  | case1 t h =>
      rw [Bool.or_eq_true, List.isEmpty_iff] at h
      exact h.symm
  | case2 t _ ih => exact ih

/-- No beginning that has room is lost. -/
theorem isPrefix_shorten {fits : Text → Bool} {q t : Text} (hq : q <+: t)
    (hfits : fits q = true) : q <+: shorten fits t := by
  fun_induction shorten fits t with
  | case1 t _ => exact hq
  | case2 t h ih =>
      apply ih
      rw [Bool.or_eq_true, not_or] at h
      -- the text has no room itself, so the beginning is a shorter one
      have hne : q ≠ t := by
        rintro rfl
        exact h.2 hfits
      have hlt : q.length < t.length :=
        lt_of_le_of_ne hq.length_le fun he => hne (hq.eq_of_length he)
      rw [List.prefix_iff_eq_take] at hq ⊢
      rw [List.dropLast_eq_take, List.take_take, min_eq_left (by omega)]
      exact hq

/-- The longest beginning of a text that has a property, or nothing if no beginning has it. -/
structure IsLongestBeginning (P : Text → Prop) (t p : Text) : Prop where
  isPrefix : p <+: t
  longest : ∀ q, q <+: t → P q → q <+: p
  holds_or : P p ∨ p = [] ∧ ∀ q, q <+: t → ¬ P q

theorem isLongestBeginning_shorten (fits : Text → Bool) (t : Text) :
    IsLongestBeginning (fits · = true) t (shorten fits t) := by
  refine ⟨shorten_isPrefix fits t, fun q hq hfits => isPrefix_shorten hq hfits, ?_⟩
  rcases fits_shorten_or fits t with h | h
  · exact Or.inl h
  · by_cases hnone : ∀ q, q <+: t → ¬ fits q = true
    · exact Or.inr ⟨h, hnone⟩
    · push Not at hnone
      obtain ⟨q, hq, hfits⟩ := hnone
      have hnil := isPrefix_shorten hq hfits
      rw [h, List.prefix_nil] at hnil
      rw [h, ← hnil]
      exact Or.inl hfits

/-! ## Widths -/

/-- A width is put together from the widths of characters, none of them negative, in a size that is
not negative. -/
def IsAdditive (width : Text → Rat) : Prop :=
  ∃ (charWidth : Char → Rat) (size : Rat), (∀ c, 0 ≤ charWidth c) ∧ 0 ≤ size ∧
    ∀ t, width t = (t.map charWidth).sum * size

namespace IsAdditive

variable {width : Text → Rat} (h : IsAdditive width)

include h

theorem nil_eq : width [] = 0 := by
  obtain ⟨charWidth, size, -, -, hsum⟩ := h
  rw [hsum, List.map_nil, List.sum_nil, zero_mul]

theorem append_eq (a b : Text) : width (a ++ b) = width a + width b := by
  obtain ⟨charWidth, size, -, -, hsum⟩ := h
  rw [hsum, hsum, hsum, List.map_append, List.sum_append, add_mul]

theorem nonneg (t : Text) : 0 ≤ width t := by
  obtain ⟨charWidth, size, hchar, hsize, hsum⟩ := h
  rw [hsum]
  apply mul_nonneg _ hsize
  apply List.sum_nonneg
  intro w hw
  obtain ⟨c, -, rfl⟩ := List.mem_map.1 hw
  exact hchar c

/-- No beginning of a text is wider than the text. -/
theorem le_of_isPrefix {p t : Text} (hp : p <+: t) : width p ≤ width t := by
  obtain ⟨s, rfl⟩ := hp
  rw [h.append_eq]
  have hs := h.nonneg s
  linarith

end IsAdditive

theorem cast_total_map (f : Char → Nat) (t : Text) :
    ((total (t.map f) : Nat) : Rat) = (t.map fun c => (f c : Rat)).sum := by
  induction t with
  | nil => rfl
  | cons c t ih => rw [List.map_cons, total_cons, Nat.cast_add, ih, List.map_cons, List.sum_cons]

/-- In exact arithmetic every style has such a width. -/
theorem Style.isAdditive_width {style : Style Rat} (hsize : 0 ≤ style.size) :
    IsAdditive style.width := by
  have hthousandth : (Measure.decimal 1 3 : Rat) = 1 / 1000 := by
    show mkRat 1 1000 = 1 / 1000
    norm_num
  refine ⟨fun c => style.face.charWidth c, style.size / 1000, fun c => Nat.cast_nonneg _,
    by positivity, fun t => ?_⟩
  show Measure.ofInt (style.face.thousandths t) * Measure.decimal 1 3 * style.size = _
  rw [Measure.ofInt_rat, hthousandth, Int.cast_natCast, Face.thousandths, cast_total_map]
  ring

/-! ## Cutting -/

section Exact

variable {width : Text → Rat} {limit : Rat}

theorem hasRoom_rat (q : Text) :
    hasRoom width (.exact limit) q = true ↔ width q + width ellipsis ≤ limit := by
  show (!decide (limit < width q + width ellipsis)) = true ↔ _
  simp

theorem cutToFit_of_le {t : Text} (h : width t ≤ limit) :
    cutToFit width (.exact limit) t = t := by
  apply if_pos
  show (!decide (limit < width t)) = true
  simpa using h

theorem cutToFit_of_lt {t : Text} (h : limit < width t) :
    cutToFit width (.exact limit) t
      = trimEnd (shorten (hasRoom width (.exact limit)) t) ++ ellipsis := by
  apply if_neg
  show ¬ (!decide (limit < width t)) = true
  simpa using h

/-- A beginning that has room stays within the limit with the ellipsis after it, also when the
blanks at its end are left out. -/
theorem width_trimEnd_append_le (hwidth : IsAdditive width) {p : Text}
    (h : width p + width ellipsis ≤ limit) : width (trimEnd p ++ ellipsis) ≤ limit := by
  have htrim := hwidth.le_of_isPrefix (trimEnd_isPrefix p)
  rw [hwidth.append_eq]
  linarith

/-- **A text that is too wide is cut to its longest beginning that has room.**  In exact arithmetic
a text stays as it is if its width is within the limit.  If it is not, the text becomes the longest
of its beginnings that are within the limit together with three points, or nothing if none is,
without the blanks at its end, and the three points.  If the three points are within the limit, so
is what becomes of every text. -/
theorem cutToFit_longest (hwidth : IsAdditive width) (limit : Rat) (t : Text) :
    (width t ≤ limit → cutToFit width (.exact limit) t = t) ∧
      (limit < width t → ∃ p,
        IsLongestBeginning (fun q => width q + width "...".toList ≤ limit) t p ∧
          cutToFit width (.exact limit) t = trimEnd p ++ "...".toList) ∧
      (width "...".toList ≤ limit → width (cutToFit width (.exact limit) t) ≤ limit) := by
  have hpoints : ellipsis = "...".toList := by decide
  have hlongest : IsLongestBeginning (fun q => width q + width "...".toList ≤ limit) t
      (shorten (hasRoom width (.exact limit)) t) := by
    have hshorten := isLongestBeginning_shorten (hasRoom width (.exact limit)) t
    simp only [hasRoom_rat, hpoints] at hshorten
    exact hshorten
  rw [← hpoints] at hlongest ⊢
  refine ⟨cutToFit_of_le, fun h => ⟨_, hlongest, cutToFit_of_lt h⟩, fun hroom => ?_⟩
  rcases le_or_gt (width t) limit with h | h
  · rw [cutToFit_of_le h]
    exact h
  · rw [cutToFit_of_lt h]
    rcases hlongest.holds_or with hfits | ⟨-, hnone⟩
    · exact width_trimEnd_append_le hwidth hfits
    · -- the empty beginning has room for the three points
      exact absurd (by rwa [hwidth.nil_eq, zero_add]) (hnone [] List.nil_prefix)

/-- Twelve-point letters of the sans-serif face. -/
def plainStyle : Style Rat := ⟨.sans, 12⟩

/-- A label is cut after a blank, which is left out with what follows it. -/
theorem cutToFit_longest_label :
    IsAdditive plainStyle.width ∧
      plainStyle.fit (.exact 60) "Release the second draft".toList = "Release...".toList ∧
      (∃ p, IsLongestBeginning
          (fun q => plainStyle.width q + plainStyle.width "...".toList ≤ 60)
          "Release the second draft".toList p ∧ "Release...".toList = trimEnd p ++ "...".toList) ∧
      plainStyle.width "Release...".toList ≤ 60 := by
  have hwidth : IsAdditive plainStyle.width := Style.isAdditive_width (by decide)
  have hfit : cutToFit plainStyle.width (.exact 60) "Release the second draft".toList
      = "Release...".toList := by
    decide +kernel
  obtain ⟨-, hcut, hbound⟩ := cutToFit_longest hwidth 60 "Release the second draft".toList
  rw [hfit] at hcut hbound
  exact ⟨hwidth, hfit, hcut (by decide +kernel), hbound (by decide +kernel)⟩

end Exact

end Prepress.Font
