/-
# How long a task takes

A token that marks no milestone is read for the first numeral in it, which counts hours if the token
ends in an h, and days if not (`Duration.read_eq`).  No duration is negative, in exact numbers or in
doubles (`zero_le_days_rat`, `zero_le_days_float`).
-/
import Prepress.Proofs.Number.Exact
import Prepress.Proofs.Number.Sign
import Prepress.Proofs.Timeline.Numerals

namespace Prepress.Timeline

open Text

/-! ## Units -/

/-- Whether a token, without the blanks around it, ends in the letter of hours. -/
def IsInHours (token : Text) : Prop :=
  token.trim.getLast? = some 'h' ∨ token.trim.getLast? = some 'H'

instance (token : Text) : Decidable (IsInHours token) := by
  unfold IsInHours
  infer_instance

/-- The letter of hours is the lower case of itself and of its capital alone. -/
theorem lowerChar_eq_h_iff {c : Char} : lowerChar c = 'h' ↔ c = 'h' ∨ c = 'H' := by
  constructor
  · intro h
    have hascii : ∀ n < 128, lowerChar (Char.ofNat n) = 'h' →
        Char.ofNat n = 'h' ∨ Char.ofNat n = 'H' := by
      decide
    have hmem : (lowerChar c).toNat ∈ [104] := by
      rw [h]
      decide
    have hcode : c.toNat < 128 := toNat_lt_of_mem_lowerChar (by decide +kernel) hmem
    have hc := hascii c.toNat hcode
    rw [Char.ofNat_toNat] at hc
    exact hc h
  · rintro (rfl | rfl) <;> decide

/-- The last letter of a text in lower case is that of hours if the last one of the text is. -/
theorem getLast?_lowerAfter_eq_h_iff (p t : Text) :
    (lowerAfter p t).getLast? = some 'h' ↔ t.getLast? = some 'h' ∨ t.getLast? = some 'H' := by
  induction t generalizing p with
  | nil => simp [lowerAfter]
  | cons c t ih =>
      rw [lowerAfter]
      cases t with
      | nil =>
          rw [lowerAfter, List.append_nil, List.getLast?_singleton, Option.some.injEq,
            Option.some.injEq, ← lowerChar_eq_h_iff]
          split
          · next hc =>
              rw [hc]
              refine iff_of_false ?_ (by decide)
              split <;> decide
          · split
            · next hc =>
                rw [hc]
                exact iff_of_false (by decide) (by decide)
            · rw [List.getLast?_singleton, Option.some.injEq]
      | cons d t =>
          have hlower : lowerAfter (c :: p) (d :: t) ≠ [] := by
            rw [lowerAfter]
            split
            · simp
            · split <;> simp
          rw [List.getLast?_append_of_ne_nil _ hlower, ih, List.getLast?_cons_cons]

theorem getLast?_lower_eq_h_iff (token : Text) :
    token.trim.lower.getLast? = some 'h' ↔ IsInHours token :=
  getLast?_lowerAfter_eq_h_iff [] token.trim

/-! ## Numbers -/

section Numbers

variable {α : Type} [Measure α]

/-- The number that a numeral stands for.  Where there is none it is one. -/
def numberOf : Option (Text × Text) → α
  | some (whole, fraction) => Measure.decimal (digitsToNat (whole ++ fraction)) fraction.length
  | none => Measure.ofInt 1

/-- The days of a number in the unit of a token. -/
def inDays (token : Text) (number : α) : α :=
  if IsInHours token then number / Measure.ofInt 24 else number

/-- Whether a task with a token and an identifier is a milestone. -/
def marksMilestone (token identifier : Text) : Bool :=
  isMilestoneToken token.trim.lower || isMilestoneIdentifier identifier.trim

theorem daysOf_eq (token : Text) :
    (daysOf token.trim.lower : α) = inDays token (numberOf (firstNumeral? token)) := by
  rw [daysOf, firstNumeral?_lower, firstNumeral?_trim, inDays]
  simp only [getLast?_lower_eq_h_iff]
  cases firstNumeral? token <;> rfl

theorem Duration.read_eq (token identifier : Text) :
    (Duration.read token identifier : Duration α)
      = if marksMilestone token identifier then ⟨Measure.ofInt 0, true⟩
        else ⟨inDays token (numberOf (firstNumeral? token)), false⟩ := by
  rw [← daysOf_eq]
  rfl

end Numbers

/-! ## Signs -/

section Signs

variable (token identifier : Text)

theorem zero_le_inDays_rat (numeral : Option (Text × Text)) :
    (0 : Rat) ≤ inDays token (numberOf numeral) := by
  have hnumber : (0 : Rat) ≤ numberOf numeral := by
    match numeral with
    | some (whole, fraction) => exact Rat.mkRat_nonneg (Int.natCast_nonneg _) _
    | none =>
        rw [numberOf, Measure.ofInt_rat]
        decide
  unfold inDays
  split
  · rw [Measure.ofInt_rat]
    exact div_nonneg hnumber (by decide)
  · exact hnumber

theorem hasPlus_inDays (numeral : Option (Text × Text)) :
    Double.HasPlus (inDays token (numberOf numeral)) := by
  have hnumber : Double.HasPlus (numberOf numeral) := by
    match numeral with
    | some (whole, fraction) => exact Double.hasPlus_decimal _ _
    | none => exact Double.hasPlus_decimal 1 0
  have hday : Double.isFinitePlus (Measure.ofInt 24 : Float).toModel.unpack = true := by
    decide +kernel
  unfold inDays
  split
  · exact Double.hasPlus_div hnumber hday
  · exact hnumber

/-- A duration in exact numbers is not negative. -/
theorem zero_le_days_rat :
    Measure.le (Measure.ofInt 0) (Duration.read token identifier : Duration Rat).days = true := by
  have hdays : (0 : Rat) ≤ (Duration.read token identifier : Duration Rat).days := by
    rw [Duration.read_eq]
    split
    · rw [Measure.ofInt_rat]
      exact le_refl _
    · exact zero_le_inDays_rat token _
  show (!decide (_ < (Measure.ofInt 0 : Rat))) = true
  rw [Bool.not_eq_true', decide_eq_false_iff_not, not_lt, Measure.ofInt_rat]
  exact hdays

/-- A duration in doubles is not negative, and it is a number or infinite. -/
theorem zero_le_days_float :
    Measure.le (Measure.ofInt 0) (Duration.read token identifier : Duration Float).days
      = true := by
  have hzero : Measure.value (Measure.ofInt 0 : Float) = .exact 0 := by decide +kernel
  have hdays : Double.HasPlus (Duration.read token identifier : Duration Float).days := by
    rw [Duration.read_eq]
    split
    · exact Double.hasPlus_decimal 0 0
    · exact hasPlus_inDays token _
  rw [Measure.le, hzero]
  exact Double.zero_le_value hdays

end Signs

/-! ## Durations -/

/-- Every token and every identifier give a duration.  It is that of a milestone, no days, if one of
the two marks a milestone.  If not, its number is that of the first numeral of the token, which is
what the pattern of numerals finds in the token as it is compared, or one if there is none; and the
number is divided by twenty-four if the token ends in the letter of hours, in either case.  In exact
numbers and in doubles no duration is negative. -/
theorem Duration.read_firstNumeral (token identifier : Text) :
    (∃ numeral, ReadsFirst token numeral ∧
      searchNumeral token.trim.lower = numeral.map numeralText ∧
      ∀ (α : Type) [Measure α], (Duration.read token identifier : Duration α)
        = if marksMilestone token identifier then ⟨Measure.ofInt 0, true⟩
          else ⟨if IsInHours token then numberOf numeral / Measure.ofInt 24 else numberOf numeral,
            false⟩) ∧
    Measure.le (Measure.ofInt 0) (Duration.read token identifier : Duration Rat).days = true ∧
    Measure.le (Measure.ofInt 0) (Duration.read token identifier : Duration Float).days
      = true := by
  refine ⟨⟨firstNumeral? token, readsFirst_iff.2 rfl, ?_, ?_⟩, zero_le_days_rat token identifier,
    zero_le_days_float token identifier⟩
  · rw [searchNumeral_eq, firstNumeral?_lower, firstNumeral?_trim]
  · intro α _
    exact Duration.read_eq token identifier

/-- The numeral begins at the second point and ends before the third one. -/
example : firstNumeral? " ..07.50 H".toList = some ([], ['0', '7']) := by decide

end Prepress.Timeline
