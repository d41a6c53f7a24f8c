/-
# Reading numerals back

The digits of a number denote it, also with zeros before them (`digitsToNat_ofNat`,
`digitsToNat_zeroPadded`), and the first of them is a zero only in the numeral of zero
(`head?_ofNat_ne`).
-/
import Mathlib.Algebra.Group.Nat.Defs
import Prepress.Proofs.Text.Within
import Prepress.Text.Digit

namespace Prepress.Text

/-! ## The number of a run of digits -/

theorem natFrom_eq_ofDigitChars (read : Nat) (t : Text) :
    natFrom read t = Nat.ofDigitChars 10 t read := by
  induction t generalizing read with
  | nil => exact Nat.ofDigitChars_nil.symm
  | cons c t ih =>
      have hcons : natFrom read (c :: t) = natFrom (10 * read + (c.toNat - 48)) t := rfl
      have hzero : '0'.toNat = 48 := by decide
      rw [hcons, ih, Nat.ofDigitChars_cons, hzero]

theorem digitsToNat_append (a b : Text) :
    digitsToNat (a ++ b) = 10 ^ b.length * digitsToNat a + digitsToNat b := by
  simp only [digitsToNat, natFrom_eq_ofDigitChars]
  rw [Nat.ofDigitChars_append, Nat.ofDigitChars_eq_ofDigitChars_zero]

theorem digitsToNat_replicate_zero (k : Nat) : digitsToNat (List.replicate k '0') = 0 := by
  rw [digitsToNat, natFrom_eq_ofDigitChars, Nat.ofDigitChars_replicate_zero, Nat.mul_zero]

/-! ## Numerals -/

theorem digitsToNat_ofNat (n : Nat) : digitsToNat (ofNat n) = n := by
  rw [digitsToNat, natFrom_eq_ofDigitChars]
  exact Nat.ofDigitChars_ten_toDigits

theorem digitsToNat_zeroPadded (width n : Nat) : digitsToNat (zeroPadded width n) = n := by
  rw [zeroPadded, padLeft, digitsToNat_append, digitsToNat_replicate_zero, digitsToNat_ofNat,
    Nat.mul_zero, Nat.zero_add]

theorem within_isDigit_ofNat (n : Nat) : Within (·.isDigit = true) (ofNat n) :=
  fun _ hc => isDigit_of_mem_ofNat hc

theorem within_isDigit_zeroPadded (width n : Nat) :
    Within (·.isDigit = true) (zeroPadded width n) :=
  within_padLeft (by decide) (within_isDigit_ofNat n)

theorem ofNat_ne_nil (n : Nat) : ofNat n ≠ [] := Nat.toDigits_ne_nil

theorem zeroPadded_ne_nil (width n : Nat) : zeroPadded width n ≠ [] :=
  List.append_ne_nil_of_right_ne_nil _ (ofNat_ne_nil n)

theorem length_zeroPadded {width n : Nat} (hw : 0 < width) (hn : n < 10 ^ width) :
    (zeroPadded width n).length = width := by
  have hlength : (ofNat n).length ≤ width := (Nat.length_toDigits_le_iff (by decide) hw).2 hn
  rw [zeroPadded, length_padLeft, Nat.max_eq_left hlength]

/-- A numeral that is long enough is not filled up. -/
theorem zeroPadded_of_le {width n : Nat} (h : width ≤ (ofNat n).length) :
    zeroPadded width n = ofNat n := by
  rw [zeroPadded, padLeft, Nat.sub_eq_zero_of_le h]
  rfl

/-- One more place is one more zero, if the numeral is not longer than the places before. -/
theorem zeroPadded_succ {width n : Nat} (h : (ofNat n).length ≤ width) :
    zeroPadded (width + 1) n = '0' :: zeroPadded width n := by
  rw [zeroPadded, padLeft, Nat.succ_sub h, List.replicate_succ]
  rfl

/-- Only zero begins with a zero. -/
theorem head?_ofNat_ne {n : Nat} (hn : n ≠ 0) : (ofNat n).head? ≠ some '0' := by
  induction n using Nat.strongRecOn with
  | _ n ih =>
      rw [ofNat, Nat.toDigits_eq_if (by decide)]
      split
      · next hlt =>
          have hdigit : ∀ d < 10, d ≠ 0 → d.digitChar ≠ '0' := by decide
          simpa using hdigit n hlt hn
      · next hle =>
          -- the first digit is that of the number without its last one
          have hfirst := ih (n / 10) (by omega) (by omega)
          obtain ⟨c, t, hct⟩ := List.exists_cons_of_ne_nil (ofNat_ne_nil (n / 10))
          show (ofNat (n / 10) ++ [(n % 10).digitChar]).head? ≠ some '0'
          rw [hct] at hfirst ⊢
          exact hfirst

end Prepress.Text
