/-
# The characters of amounts

An amount is written with digits, a minus sign and a point, or it is one of the words for the
values that are no rational number (`within_short`).
-/
import Prepress.Number.Amount
import Prepress.Proofs.Text.Within

namespace Prepress.Amount

open Text
open scoped List

/-- The characters that amounts are written with. -/
def IsAmountChar (c : Char) : Prop := c.isDigit = true ∨ c ∈ "-.infa".toList

instance (c : Char) : Decidable (IsAmountChar c) := by
  unfold IsAmountChar
  infer_instance

theorem isPlain_of_isAmountChar {c : Char} (h : IsAmountChar c) : IsPlain c := by
  rcases h with h | h
  · exact isPlain_of_isDigit h
  · revert h
    revert c
    decide

theorem within_amount_ofNat (n : Nat) : Within IsAmountChar (ofNat n) :=
  fun _ hc => Or.inl (isDigit_of_mem_ofNat hc)

/-- A numeral of an integer is an amount. -/
theorem within_amount_ofInt (n : Int) : Within IsAmountChar (ofInt n) := by
  cases n with
  | ofNat n => exact within_amount_ofNat n
  | negSucc n => exact within_cons.2 ⟨by decide, within_amount_ofNat (n + 1)⟩

theorem dropFinal_sublist (d : Char) (t : Text) : dropFinal d t <+ t := by
  induction t with
  | nil => exact List.Sublist.refl _
  | cons c t ih =>
      rw [dropFinal]
      split
      · split
        · exact List.nil_sublist _
        · exact (List.nil_sublist t).cons_cons c
      · exact ih.cons_cons c

theorem within_fixed (places : Nat) (q : Rat) : Within IsAmountChar (fixed places q) := by
  have hdigits : ∀ n, Within IsAmountChar (zeroPadded (places + 1) n) :=
    fun n => within_padLeft (by decide) (within_amount_ofNat n)
  rw [fixed, ofUnits, within_append, within_append]
  refine ⟨?_, (hdigits _).sublist (List.take_sublist _ _), ?_⟩
  · split <;> decide
  · split
    · exact within_nil
    · exact within_cons.2 ⟨by decide, (hdigits _).sublist (List.drop_sublist _ _)⟩

theorem within_ofRat (q : Rat) : Within IsAmountChar (ofRat q) := by
  rw [ofRat, shortened]
  split
  · decide
  · exact (within_fixed 3 q).sublist ((dropFinal_sublist '.' _).trans (dropFinal_sublist '0' _))

theorem within_ofNonRational (negative : Bool) {word : String}
    (h : Within IsAmountChar word.toList) : Within IsAmountChar (ofNonRational negative word) := by
  rw [ofNonRational, within_append]
  refine ⟨?_, h⟩
  split <;> decide

/-- A number with at most three places is written with the characters of amounts. -/
theorem within_short {α : Type} [Measure α] (x : α) : Within IsAmountChar (short x) := by
  rw [short]
  cases Measure.value x with
  | exact q => exact within_ofRat q
  | infinite negative => exact within_ofNonRational negative (by decide)
  | undefined => exact within_ofNonRational false (by decide)

theorem within_isPlain_short {α : Type} [Measure α] (x : α) : Within IsPlain (short x) :=
  (within_short x).imp fun _ h => isPlain_of_isAmountChar h

end Prepress.Amount
