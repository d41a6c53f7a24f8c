/-
# Letter case

A single letter has a counterpart in upper case or in lower case, or stays as it is.  A text is
put into lower case letter by letter, with two exceptions.  The dotted capital I becomes an i
and a combining dot.  A capital sigma becomes the final sigma when, characters without a say in
it left out, a letter with case stands before it and none stands after it.
-/
import Prepress.Text.CaseTable

namespace Prepress.Text

/-! ## Single letters -/

/-- The lower-case letter of a character that has just one, else the character. -/
def lowerChar (c : Char) : Char :=
  if c.toNat < 128 then c.toLower else inOtherCase caseRuns c

/-- The upper-case letter of a character that has just one, else the character. -/
def upperChar (c : Char) : Char :=
  if c.toNat < 128 then c.toUpper else inOtherCase upperRuns c

/-- Whether a character is passed over when the neighbour of a sigma is looked for. -/
def isCaseIgnorable (c : Char) : Bool := inRanges caseIgnorableRanges c

/-- Whether a character has case. -/
def isCased (c : Char) : Bool := inRanges casedRanges c

/-- Whether a letter with case comes first among the characters that count. -/
def casedAhead (t : Text) : Bool :=
  match t.dropWhile isCaseIgnorable with
  | [] => false
  | c :: _ => isCased c

/-! ## Texts -/

/-- The lower case of what follows the characters `passed`, nearest first. -/
def lowerAfter (passed : Text) : Text → Text
  | [] => []
  | c :: t =>
    (if c = 'Σ' then [if casedAhead passed && !casedAhead t then 'ς' else 'σ']
     else if c = 'İ' then ['i', Char.ofNat 0x307]
     else [lowerChar c]) ++ lowerAfter (c :: passed) t

/-- The lower case of a text. -/
def lower (t : Text) : Text := lowerAfter [] t

/-! ## Letters without regard to case -/

/-- Whether two ASCII texts agree letter by letter up to ASCII case. -/
def sameLetters (a b : Text) : Bool := a.map Char.toLower == b.map Char.toLower

/-- Whether a character is a form of an ASCII letter, given in lower case: the letter in
either case, the long s, the Kelvin sign, the dotted capital I and the dotless small i. -/
def isFormOf (letter c : Char) : Bool :=
  c.toLower == letter || (letter == 's' && c == 'ſ') || (letter == 'k' && c.toNat == 0x212A)
    || (letter == 'i' && (c == 'İ' || c == 'ı'))

/-- What follows a given word at the beginning of a text, in any forms of its letters. -/
def afterWord? : (word t : Text) → Option Text
  | [], t => some t
  | _ :: _, [] => none
  | l :: ls, c :: t => if isFormOf l c then afterWord? ls t else none

end Prepress.Text
