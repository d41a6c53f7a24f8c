/-
# Rounding to the nearest integer

A rational number is rounded to the integer nearest to it, and a number halfway between two
integers to the even one.
-/

namespace Prepress

/-- The nearest integer, a tie going to the even one. -/
def roundHalfEven (q : Rat) : Int :=
  let whole := q.num / (q.den : Int)
  let left := q.num % (q.den : Int)
  if 2 * left < q.den then whole
  else if (q.den : Int) < 2 * left then whole + 1
  else if whole % 2 = 0 then whole
  else whole + 1

/-- An integer is its own rounding. -/
theorem roundHalfEven_intCast (n : Int) : roundHalfEven (n : Rat) = n := by
  have hn : (n : Rat).num = n := rfl
  have hd : (n : Rat).den = 1 := rfl
  simp [roundHalfEven, hn, hd]

/-- The rounding is one of the two integers around the number. -/
theorem roundHalfEven_eq_or (q : Rat) :
    roundHalfEven q = q.num / (q.den : Int) ∨ roundHalfEven q = q.num / (q.den : Int) + 1 := by
  unfold roundHalfEven
  dsimp only
  split
  · exact Or.inl rfl
  · split
    · exact Or.inr rfl
    · split
      · exact Or.inl rfl
      · exact Or.inr rfl

end Prepress
