/-
# Quoted texts

A text is shown between quotation marks on one line.  Single marks are used unless the text
holds single marks and no double ones.  The mark in use and the backslash are escaped, and
characters without a visible form are written by number.
-/
import Prepress.Text.UnprintableTable
import Prepress.Text.Numeral

namespace Prepress.Text

/-- Whether a character has a visible form. -/
def isPrintable (c : Char) : Bool := !inRanges unprintableRanges c

/-- The quotation mark around a text. -/
def quoteMark (t : Text) : Char := if '\'' ∈ t ∧ '"' ∉ t then '"' else '\''

/-- The form of a character between quotation marks. -/
def quotedChar (mark c : Char) : Text :=
  if c = mark ∨ c = '\\' then ['\\', c]
  else if c = '\n' then ['\\', 'n']
  else if c = '\r' then ['\\', 'r']
  else if c = '\t' then ['\\', 't']
  else if isPrintable c then [c]
  else if c.toNat < 0x100 then ['\\', 'x'] ++ hexPadded 2 c.toNat
  else if c.toNat < 0x10000 then ['\\', 'u'] ++ hexPadded 4 c.toNat
  else ['\\', 'U'] ++ hexPadded 8 c.toNat

/-- The quoted form of a text. -/
def quoted (t : Text) : Text :=
  let mark := quoteMark t
  mark :: t.flatMap (quotedChar mark) ++ [mark]

end Prepress.Text
