/-
# How far rounding moves a number

A number is rounded to an integer that is not farther from it than a half
(`abs_roundHalfEven_sub_le`): to the nearest one, of two equally near ones to the even one
(`isNearest_roundHalfEven`).  There is just one such integer, and it is not less for a greater
number (`IsNearest.unique`, `IsNearest.mono`).
-/
import Mathlib.Algebra.Order.Field.Rat
import Mathlib.Algebra.Order.Group.Abs
import Mathlib.Algebra.Order.Ring.Abs
import Mathlib.Data.Rat.Cast.Order
import Mathlib.Tactic.Linarith
import Mathlib.Tactic.Positivity
import Mathlib.Tactic.Ring
import Prepress.Number.Rounding

namespace Prepress

/-- Twice the numerator of the rounding and twice that of the number differ by at most one
denominator. -/
theorem roundHalfEven_mul_den (q : Rat) :
    2 * q.num - q.den ≤ 2 * (roundHalfEven q * q.den) ∧
      2 * (roundHalfEven q * q.den) ≤ 2 * q.num + q.den := by
  have hdivide : q.num / q.den * q.den + q.num % q.den = q.num :=
    Int.ediv_mul_add_emod q.num q.den
  have hnonneg : 0 ≤ q.num % q.den := Int.emod_nonneg _ (by exact_mod_cast q.den_nz)
  have hup : (q.num / (q.den : Int) + 1) * q.den = q.num / q.den * q.den + q.den := by
    rw [Int.add_mul, Int.one_mul]
  unfold roundHalfEven
  dsimp only
  split
  · omega
  · split
    · have hlt : q.num % q.den < q.den := Int.emod_lt_of_pos _ (by exact_mod_cast q.den_pos)
      rw [hup]
      omega
    · -- the number lies halfway between two integers
      split
      · omega
      · rw [hup]
        omega

/-- Rounding moves a number by at most a half. -/
theorem abs_roundHalfEven_sub_le (q : Rat) : |(roundHalfEven q : Rat) - q| ≤ 1 / 2 := by
  have hden : (0 : Rat) < q.den := by exact_mod_cast q.den_pos
  have hq : q * q.den = q.num := Rat.mul_den_eq_num q
  obtain ⟨hlow, hhigh⟩ := roundHalfEven_mul_den q
  have hlow : 2 * (q.num : Rat) - q.den ≤ 2 * (roundHalfEven q * q.den) := by exact_mod_cast hlow
  have hhigh : 2 * (roundHalfEven q * q.den : Rat) ≤ 2 * q.num + q.den := by exact_mod_cast hhigh
  rw [← hq] at hlow hhigh
  rw [abs_le]
  constructor
  · refine le_of_mul_le_mul_right ?_ hden
    linarith
  · refine le_of_mul_le_mul_right ?_ hden
    linarith

/-- If twice the numerator of the rounding and that of the number are a denominator apart, the
rounding is even. -/
theorem roundHalfEven_even_of_mul_den {q : Rat}
    (h : 2 * (roundHalfEven q * q.den) = 2 * q.num - q.den ∨
      2 * (roundHalfEven q * q.den) = 2 * q.num + q.den) : roundHalfEven q % 2 = 0 := by
  have hdivide : q.num / q.den * q.den + q.num % q.den = q.num :=
    Int.ediv_mul_add_emod q.num q.den
  have hnonneg : 0 ≤ q.num % q.den := Int.emod_nonneg _ (by exact_mod_cast q.den_nz)
  have hlt : q.num % q.den < q.den := Int.emod_lt_of_pos _ (by exact_mod_cast q.den_pos)
  have hup : (q.num / (q.den : Int) + 1) * q.den = q.num / q.den * q.den + q.den := by
    rw [Int.add_mul, Int.one_mul]
  unfold roundHalfEven at h ⊢
  dsimp only at h ⊢
  split at h
  · omega
  · split at h
    · rw [hup] at h
      omega
    · -- only here does the number lie halfway between two integers
      rename_i hnot hnot'
      rw [if_neg hnot, if_neg hnot']
      split
      · assumption
      · omega

theorem roundHalfEven_even_of_tie {q : Rat} (h : |(roundHalfEven q : Rat) - q| = 1 / 2) :
    roundHalfEven q % 2 = 0 := by
  have hq : q * q.den = q.num := Rat.mul_den_eq_num q
  apply roundHalfEven_even_of_mul_den
  rcases abs_cases ((roundHalfEven q : Rat) - q) with ⟨habs, -⟩ | ⟨habs, -⟩
  · right
    have hround : (roundHalfEven q : Rat) = q + 1 / 2 := by linarith
    have hsum : 2 * ((roundHalfEven q : Rat) * q.den) = 2 * q.num + q.den := by
      rw [hround, ← hq]
      ring
    exact_mod_cast hsum
  · left
    have hround : (roundHalfEven q : Rat) = q - 1 / 2 := by linarith
    have hsum : 2 * ((roundHalfEven q : Rat) * q.den) = 2 * q.num - q.den := by
      rw [hround, ← hq]
      ring
    exact_mod_cast hsum

/-! ## The nearest integer -/

/-- Whether an integer is the nearest one to a number, and the even one if there are two. -/
structure IsNearest (q : Rat) (n : Int) : Prop where
  le : ∀ m : Int, |q - n| ≤ |q - m|
  even_of_tie : ∀ m : Int, m ≠ n → |q - m| = |q - n| → n % 2 = 0

/-- Different integers are at least one apart. -/
theorem one_le_abs_sub_of_ne {m n : Int} (h : m ≠ n) : (1 : Rat) ≤ |(m : Rat) - n| := by
  have hpos : 0 < |m - n| := abs_pos.2 (sub_ne_zero.2 h)
  exact_mod_cast (show (1 : Int) ≤ |m - n| by omega)

/-- A number is rounded to the nearest integer, and to the even one if there are two. -/
theorem isNearest_roundHalfEven (q : Rat) : IsNearest q (roundHalfEven q) := by
  have hhalf := abs_roundHalfEven_sub_le q
  -- every other integer is at least a half away
  have hother : ∀ m : Int, m ≠ roundHalfEven q → 1 ≤ |q - m| + |(roundHalfEven q : Rat) - q| := by
    intro m hm
    have htriangle := abs_sub_le (roundHalfEven q : Rat) q m
    have hapart := one_le_abs_sub_of_ne hm.symm
    linarith
  refine ⟨fun m => ?_, fun m hm htie => ?_⟩
  · rw [abs_sub_comm q (roundHalfEven q : Rat)]
    by_cases hm : m = roundHalfEven q
    · rw [hm, abs_sub_comm]
    · have := hother m hm
      linarith
  · apply roundHalfEven_even_of_tie
    rw [abs_sub_comm q (roundHalfEven q : Rat)] at htie
    have := hother m hm
    linarith

/-- A number that is no farther from the greater of two integers is not below their midpoint. -/
theorem add_le_of_abs_sub_le {q : Rat} {m n : Int} (hlt : n < m) (h : |q - m| ≤ |q - n|) :
    (m + n : Rat) ≤ 2 * q := by
  have hlt : (n : Rat) < m := by exact_mod_cast hlt
  rw [← sq_le_sq] at h
  nlinarith

/-- A number that is no farther from the lesser of two integers is not above their midpoint. -/
theorem le_add_of_abs_sub_le {q : Rat} {m n : Int} (hlt : n < m) (h : |q - n| ≤ |q - m|) :
    2 * q ≤ (m + n : Rat) := by
  have hlt : (n : Rat) < m := by exact_mod_cast hlt
  rw [← sq_le_sq] at h
  nlinarith

/-- The nearest integer of a greater number is not less. -/
theorem IsNearest.mono {q r : Rat} {m n : Int} (hq : IsNearest q m) (hr : IsNearest r n)
    (h : q ≤ r) : m ≤ n := by
  by_contra hlt
  rw [not_le] at hlt
  have hlow := add_le_of_abs_sub_le hlt (hq.le n)
  have hhigh := le_add_of_abs_sub_le hlt (hr.le m)
  -- both numbers lie halfway between the integers, which are even and so two apart
  have heq : q = r := by linarith
  subst heq
  have htie : |q - m| = |q - n| := le_antisymm (hq.le n) (hr.le m)
  have hm := hq.even_of_tie n hlt.ne htie.symm
  have hn := hr.even_of_tie m hlt.ne' htie
  have hbetween := add_le_of_abs_sub_le (sub_one_lt m) (hq.le (m - 1))
  push_cast at hbetween
  have hnear : (m : Rat) - 1 ≤ n := by linarith
  have hnear : m - 1 ≤ n := by exact_mod_cast hnear
  omega

/-- No number has two nearest integers. -/
theorem IsNearest.unique {q : Rat} {m n : Int} (hm : IsNearest q m) (hn : IsNearest q n) :
    m = n :=
  le_antisymm (hm.mono hn le_rfl) (hn.mono hm le_rfl)

end Prepress
