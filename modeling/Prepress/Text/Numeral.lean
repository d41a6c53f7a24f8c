/-
# Numerals

Decimal and hexadecimal numerals of natural numbers and integers, bare or padded.
-/
import Prepress.Text.Blank

namespace Prepress.Text

/-- The decimal numeral of a natural number. -/
def ofNat (n : Nat) : Text := Nat.toDigits 10 n

/-- The decimal numeral of an integer, with a minus sign if it is negative. -/
def ofInt : Int → Text
  | .ofNat n => ofNat n
  | .negSucc n => '-' :: ofNat (n + 1)

/-- A text filled up on the left to a width. -/
def padLeft (fill : Char) (width : Nat) (t : Text) : Text :=
  List.replicate (width - t.length) fill ++ t

/-- The decimal numeral with leading zeros up to a width. -/
def zeroPadded (width n : Nat) : Text := padLeft '0' width (ofNat n)

/-- The hexadecimal numeral, in small letters, with leading zeros up to a width. -/
def hexPadded (width n : Nat) : Text := padLeft '0' width (Nat.toDigits 16 n)

theorem length_padLeft (fill : Char) (width : Nat) (t : Text) :
    (padLeft fill width t).length = max width t.length := by
  simp [padLeft]; omega

end Prepress.Text
