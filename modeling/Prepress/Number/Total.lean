/-
# Totals

The total of a list of natural numbers.  Main statement: `total_append`, the total of two lists
put together is the sum of their totals.
-/

namespace Prepress

/-- The sum of the numbers of a list. -/
def total (ns : List Nat) : Nat := ns.foldr (fun n sum => n + sum) 0

@[simp]
theorem total_nil : total [] = 0 := rfl

@[simp]
theorem total_cons (n : Nat) (ns : List Nat) : total (n :: ns) = n + total ns := rfl

@[simp]
theorem total_append (ms ns : List Nat) : total (ms ++ ns) = total ms + total ns := by
  induction ms with
  | nil => simp
  | cons m ms ih => simp [ih, Nat.add_assoc]

end Prepress
