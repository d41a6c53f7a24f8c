/-
# The value of a double

A double is a rational number, an infinity, or no number at all.  Its value is read off its
sixty-four bits: a sign, eleven bits of exponent and fifty-two bits of fraction.
-/

namespace Prepress

/-- What a machine number stands for. -/
inductive Value where
  | exact (q : Rat)
  | infinite (negative : Bool)
  | undefined
deriving DecidableEq

namespace Value

/-- Whether one value is less than another; an undefined value is not comparable. -/
def lt : Value → Value → Bool
  | .exact a, .exact b => a < b
  | .exact _, .infinite negative => !negative
  | .infinite negative, .exact _ => negative
  | .infinite a, .infinite b => a && !b
  | .undefined, _ => false
  | _, .undefined => false

/-- Whether one value is at most another; an undefined value is not comparable. -/
def le : Value → Value → Bool
  | .undefined, _ => false
  | _, .undefined => false
  | a, b => !lt b a

/-- The number `mantissa * 2 ^ exponent`. -/
def scaled (mantissa : Int) (exponent : Int) : Rat :=
  if 0 ≤ exponent then ((mantissa * Nat.pow 2 exponent.toNat : Int) : Rat)
  else mkRat mantissa (Nat.pow 2 (-exponent).toNat)

/-- The value of the double with the given bits. -/
def ofBits (bits : Nat) : Value :=
  let negative := decide (Nat.pow 2 63 ≤ bits)
  let exponent : Nat := bits / Nat.pow 2 52 % 2048
  let fraction : Nat := bits % Nat.pow 2 52
  if exponent = 2047 then
    if fraction = 0 then .infinite negative else .undefined
  else
    let mantissa : Nat := if exponent = 0 then fraction else fraction + Nat.pow 2 52
    .exact (scaled (if negative then -(mantissa : Int) else mantissa)
      (Int.ofNat (max exponent 1) - 1075))

/-- The value of a double. -/
def ofFloat (x : Float) : Value := ofBits x.toBits.toNat

end Value

end Prepress
