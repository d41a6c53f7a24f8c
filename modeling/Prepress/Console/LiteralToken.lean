/-
# Tokens of literals

Numbers, quoted texts, the words for constants, brackets and marks, as they stand in the literal
values that a tag may hold.  Blanks and remarks stand between tokens; a line may end there too.
-/
import Prepress.Text.Digit
import Prepress.Text.Name
import Prepress.Text.Search

namespace Prepress.Console

open Text

/-! ## Tokens -/

/-- The two kinds of brackets. -/
inductive Bracket where
  | round
  | curly
deriving DecidableEq

/-- A token.  A number may be imaginary, or huge: whole and beyond all numbers with a point.  A
line may go on after its end, and the next one may begin with blanks. -/
inductive LiteralToken where
  | number (imaginary huge : Bool)
  | quoted (bytes : Bool)
  | constant
  | setName
  | opening (bracket : Bracket)
  | closing (bracket : Bracket)
  | comma
  | colon
  | sign
  | lineEnd (goesOn indented : Bool)
deriving DecidableEq

/-! ## Numbers -/

/-- The number of characters of the digits at the beginning of a text; a low line may stand
before each of them. -/
def moreDigits (isDigit : Char → Bool) : Text → Nat
  | [] => 0
  | [c] => if isDigit c then 1 else 0
  | c :: d :: t =>
    if isDigit c then moreDigits isDigit (d :: t) + 1
    else if c = '_' && isDigit d then moreDigits isDigit t + 2
    else 0

/-- The number of characters of the digits at the beginning of a text; a low line may stand
between two of them. -/
def digitRun (t : Text) : Nat :=
  if t.head?.any Char.isDigit then moreDigits Char.isDigit t else 0

/-- The base that a letter stands for. -/
def base? (c : Char) : Option Nat :=
  if c = 'x' || c = 'X' then some 16
  else if c = 'o' || c = 'O' then some 8
  else if c = 'b' || c = 'B' then some 2
  else none

/-- Whether a character is a digit in a base. -/
def isDigitIn (base : Nat) (c : Char) : Bool := (hexValue? c).any (· < base)

/-- The whole number that digits in a base write. -/
def wholeNumber (base : Nat) (t : Text) : Nat :=
  (t.filter (· != '_')).foldl (fun n c => base * n + (hexValue? c).getD 0) 0

/-- The least whole number that is beyond all numbers with a point. -/
def leastHuge : Nat := Nat.pow 2 1024 - Nat.pow 2 970

/-- The whole number with the letter of its base at the beginning of a text, and the number of its
characters. -/
def basedAt? : Text → Option (Nat × Nat)
  | '0' :: c :: t =>
    (base? c).bind fun base =>
      let length := moreDigits (isDigitIn base) t
      if length = 0 then none else some (wholeNumber base (t.take length), length + 2)
  | _ => none

/-- The number of characters of a point with the digits after it. -/
def fractionLength : Text → Nat
  | '.' :: t => digitRun t + 1
  | _ => 0

/-- The number of characters of an exponent. -/
def exponentLength : Text → Nat
  | c :: t =>
    let sign := if t.head? = some '+' ∨ t.head? = some '-' then 1 else 0
    let digits := digitRun (t.drop sign)
    if (c = 'e' ∨ c = 'E') ∧ digits ≠ 0 then sign + digits + 1 else 0
  | [] => 0

/-- The longest whole number has so many digits. -/
def longestNumber : Nat := 4300

/-- Whether digits may stand for a whole number: none begins with a zero but zero. -/
def isWhole (t : Text) : Bool :=
  let digits := t.filter (· != '_')
  digits.length ≤ longestNumber && (digits.head? != some '0' || digits.all (· == '0'))

/-- The number at the beginning of a text, which begins with a digit or a point and a digit. -/
def numberAt? (t : Text) : Option (LiteralToken × Nat) :=
  match basedAt? t with
  | some (n, length) => some (.number false (leastHuge ≤ n), length)
  | none =>
    let whole := digitRun t
    let pointed := whole + fractionLength (t.drop whole)
    let length := pointed + exponentLength (t.drop pointed)
    let imaginary := (t[length]?).any fun c => c == 'j' || c == 'J'
    if imaginary then some (.number true false, length + 1)
    else if length ≠ whole then some (.number false false, length)
    else if isWhole (t.take whole) then
      some (.number false (leastHuge ≤ wholeNumber 10 (t.take whole)), length)
    else none

/-! ## Quoted texts -/

/-- What is read up to a mark, and the number of characters with the mark.  A backslash keeps
the character after it, and `lines` tells whether lines may end. -/
def quotedUpTo? (mark : Text) (lines : Bool) : Text → Option (Text × Nat)
  | [] => none
  | [c] => if mark = [c] then some ([], 1) else none
  | c :: d :: t =>
    if startsWith mark (c :: d :: t) then some ([], mark.length)
    else if c = '\\' then
      (quotedUpTo? mark lines t).map fun (inside, length) => (c :: d :: inside, length + 2)
    else if c = '\n' && !lines then none
    else (quotedUpTo? mark lines (d :: t)).map fun (inside, length) => (c :: inside, length + 1)

/-- Whether a text begins with so many digits in base sixteen, for a number up to a limit. -/
def hasHex (digits limit : Nat) (t : Text) : Bool :=
  (t.take digits).length == digits && (t.take digits).all isHexDigit
    && hexToNat (t.take digits) ≤ limit

/-- The last code point. -/
def lastCode : Nat := 0x10FFFF

/-- Whether a text begins with the name of a character in curly brackets. -/
def hasName : Text → Bool
  | '\x7b' :: t =>
    let name := t.takeWhile (· != '\x7d')
    name.length < t.length && isName name
  | _ => false

/-- Whether every backslash with a letter that asks for a code or a name has it after it.  Among
bytes only one such letter is known. -/
def hasCodes (bytes : Bool) : Text → Bool
  | '\\' :: c :: t =>
    (if c = 'x' then hasHex 2 lastCode t
      else if bytes then true
      else if c = 'u' then hasHex 4 lastCode t
      else if c = 'U' then hasHex 8 lastCode t
      else if c = 'N' then hasName t
      else true) && hasCodes bytes t
  | _ :: t => hasCodes bytes t
  | [] => true

/-- The letters that may stand before a quoted text. -/
def quotedLetters : List Text := ["", "r", "u", "b", "br", "rb"].map String.toList

/-- The quoted text at the beginning of a text, after some letters. -/
def quotedAt? (letters t : Text) : Option (LiteralToken × Nat) := do
  let letters := letters.map Char.toLower
  let mark ← t.head?
  let long := startsWith [mark, mark, mark] t
  let around := if long then [mark, mark, mark] else [mark]
  let (inside, length) ← quotedUpTo? around long (t.drop around.length)
  let bytes := letters.contains 'b'
  if quotedLetters.contains letters ∧ (bytes → inside.all fun c => c.toNat < 128)
      ∧ (letters.contains 'r' ∨ hasCodes bytes inside) then
    some (.quoted bytes, letters.length + around.length + length)
  else none

/-! ## All tokens -/

/-- Whether a character only keeps tokens apart. -/
def isGap (c : Char) : Bool := c == ' ' || c == '\t' || c.toNat == 12

/-- Whether the first token of a line is indented, when the line goes on with a text.  A form feed
takes back the `gap` before it, unless the line has gone on over its end in between, and then the
gap is `kept`.  A line without a token is not indented. -/
def isIndented (kept gap : Bool) : Text → Bool
  | [] => false
  | '\\' :: '\n' :: t => isIndented (kept || gap) gap t
  | c :: t =>
    if isIndent c then isIndented kept true t
    else if isGap c then isIndented kept false t
    else c != '\n' && c != '#' && (kept || gap)

/-- Whether a character may stand in a word. -/
def isLetter (c : Char) : Bool := c.isAlphanum || c == '_'

/-- The mark that a character is. -/
def mark? (c : Char) : Option LiteralToken :=
  match c with
  | '(' => some (.opening .round)
  | ')' => some (.closing .round)
  | '{' => some (.opening .curly)
  | '}' => some (.closing .curly)
  | ',' => some .comma
  | ':' => some .colon
  | '+' => some .sign
  | '-' => some .sign
  | _ => none

/-- The words that are constants. -/
def constants : List Text := ["None", "True", "False"].map String.toList

/-- The forms of the letters of the name of sets; one form of a letter is as good as another. -/
def setLetters : List (List Nat) :=
  [
    [0x73, 0x17F, 0x2E2, 0x209B, 0xFF53, 0x1D42C, 0x1D460, 0x1D494, 0x1D4C8, 0x1D4FC, 0x1D530,
      0x1D564, 0x1D598, 0x1D5CC, 0x1D600, 0x1D634, 0x1D668, 0x1D69C],
    [0x65, 0x1D49, 0x2091, 0x212F, 0x2147, 0xFF45, 0x1D41E, 0x1D452, 0x1D486, 0x1D4EE, 0x1D522,
      0x1D556, 0x1D58A, 0x1D5BE, 0x1D5F2, 0x1D626, 0x1D65A, 0x1D68E],
    [0x74, 0x1D57, 0x209C, 0xFF54, 0x1D42D, 0x1D461, 0x1D495, 0x1D4C9, 0x1D4FD, 0x1D531, 0x1D565,
      0x1D599, 0x1D5CD, 0x1D601, 0x1D635, 0x1D669, 0x1D69D]
  ]

/-- Whether a text begins with the name of sets. -/
def beginsWithSet (t : Text) : Bool :=
  3 ≤ t.length && (t.zip setLetters).all fun (c, forms) => forms.contains c.toNat

/-- The token at the beginning of a text, if one begins there, and the number of characters up
to what comes next. -/
def literalTokenAt? (t : Text) : Option (Option LiteralToken × Nat) :=
  let found (token : Option (LiteralToken × Nat)) := token.map fun (k, length) => (some k, length)
  let word := t.takeWhile isLetter
  match t with
  | [] => none
  | '\\' :: '\n' :: r => some (some (.lineEnd true (isIndented false false r)), 2)
  | '\n' :: r => some (some (.lineEnd false (isIndented false false r)), 1)
  | '#' :: r => some (none, (r.takeWhile (· != '\n')).length + 1)
  | '.' :: '.' :: '.' :: _ => some (some .constant, 3)
  | c :: r =>
    if isGap c then some (none, 1)
    else if c.isDigit ∨ c = '.' ∧ r.head?.any Char.isDigit then found (numberAt? t)
    else if (t.drop word.length).head?.any fun d => d == '\'' || d == '"' then
      found (quotedAt? word (t.drop word.length))
    else if constants.contains word then some (some .constant, word.length)
    else if beginsWithSet t then some (some .setName, 3)
    else (mark? c).map fun token => (some token, 1)

/-- The tokens of a text after its next `skip` characters. -/
def literalTokens? : (skip : Nat) → Text → Option (List LiteralToken)
  | _, [] => some []
  | skip + 1, _ :: t => literalTokens? skip t
  | 0, c :: t => do
    let (token, length) ← literalTokenAt? (c :: t)
    let tokens ← literalTokens? (length - 1) t
    some (token.toList ++ tokens)

end Prepress.Console
