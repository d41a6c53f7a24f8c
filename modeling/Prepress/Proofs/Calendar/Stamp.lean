/-
# The short form of a date

A date is written as month, day and year of the century, two digits each, with slashes between them
(`format_short`).
-/
import Prepress.Calendar.Stamp
import Prepress.Proofs.Text.Numeral

namespace Prepress.Calendar

/-! ## Days of months -/

theorem daysInMonth_le (year month : Nat) : daysInMonth year month ≤ 31 := by
  have hall : ∀ n ∈ monthLengths year, n ≤ 31 := by
    unfold monthLengths
    split <;> decide
  rw [daysInMonth, List.getD_eq_getElem?_getD]
  cases h : (monthLengths year)[month - 1]? with
  | none => exact Nat.zero_le 31
  | some n => exact hall n (List.mem_of_getElem? h)

theorem day_le_thirtyOne (d : Date) : d.day ≤ 31 :=
  Nat.le_trans d.day_le (daysInMonth_le d.year d.month)

/-! ## Months, days and years between slashes -/

namespace Stamp

open Text

theorem length_zeroPadded_two {n : Nat} (h : n < 100) : (zeroPadded 2 n).length = 2 :=
  length_zeroPadded (by decide) h

/-- The short form of a date has eight characters. -/
theorem length_slashed (d : Date) : (slashed d).length = 8 := by
  have hmonth := length_zeroPadded_two (Nat.lt_of_le_of_lt d.month_le (by omega : 12 < 100))
  have hday := length_zeroPadded_two (Nat.lt_of_le_of_lt (day_le_thirtyOne d) (by omega : 31 < 100))
  have hyear := length_zeroPadded_two (Nat.mod_lt d.year (by omega : 0 < 100))
  simp [slashed, marked, join, hmonth, hday, hyear]

theorem slashed_ne_nil (d : Date) : slashed d ≠ [] := by
  apply List.ne_nil_of_length_pos
  rw [length_slashed]
  omega

/-- The short form of a date is made of digits and slashes. -/
theorem within_slashed {P : Char → Prop} (hd : ∀ c, c.isDigit = true → P c) (hs : P '/')
    (d : Date) : Within P (slashed d) := by
  have hparts : ∀ n, Within P (zeroPadded 2 n) := fun n =>
    within_padLeft (hd '0' rfl) fun c hc => hd c (isDigit_of_mem_ofNat hc)
  refine within_join (within_cons.2 ⟨hs, within_nil⟩) ?_
  intro l hl
  obtain ⟨n, -, rfl⟩ := List.mem_map.1 hl
  exact hparts n

/-- The date is written in its short form when the pattern asks for that. -/
theorem format_short (now : Instant) : format now "%x".toList = slashed now.date := by
  have hpattern : expandFraction now "%x".toList = "%x".toList := rfl
  -- the first room that is tried is enough for eight characters
  have hroom : roomFor (256 * "%x".toList.length) (256 * "%x".toList.length) 1024 = 1024 := by
    decide
  have hstamp : expand 1024 now 0 "%x".toList = slashed now.date := by
    show padLeft ' ' 0 (slashed now.date) ++ [] = _
    rw [List.append_nil, padLeft, Nat.zero_sub]
    rfl
  unfold format
  dsimp only
  rw [hpattern, hroom, hstamp, length_slashed, if_pos (by decide)]

end Stamp

end Prepress.Calendar
