/-
# Styles

A style is a list of words.  Most words are attributes, which `not` takes back, or colours, and
`on` comes before a background.  Two styles of the same effect have the same normal form, which
names the attributes in a fixed order, then the colours and the target of a link.
-/
import Prepress.Console.ColourTable
import Prepress.Text.Case
import Prepress.Text.Digit
import Prepress.Text.Lines
import Prepress.Text.Search

namespace Prepress.Console

open Text

/-! ## Faults -/

/-- What can be wrong with a style: it is no style, or a colour lacks one of its numbers. -/
inductive StyleFault where
  | notAStyle
  | missingNumber
deriving DecidableEq

/-! ## Attributes -/

/-- The attributes in the order in which they are named, each with its short spellings. -/
def attributes : List (Text × List Text) :=
  [("bold", ["b"]), ("dim", ["d"]), ("italic", ["i"]), ("underline", ["u"]), ("blink", []),
    ("blink2", []), ("reverse", ["r"]), ("conceal", ["c"]), ("strike", ["s"]),
    ("underline2", ["uu"]), ("frame", []), ("encircle", []), ("overline", ["o"])].map
    fun (name, short) => (name.toList, short.map String.toList)

/-- The attribute that a word spells. -/
def attribute? (word : Text) : Option Text :=
  (attributes.find? fun a => a.1 == word || a.2.contains word).map (·.1)

/-! ## Colours -/

/-- The name of the colour that is not set. -/
def noColour : Text := "default".toList

/-- The names of the colours. -/
def colourNames : List Text := colourLines.flatMap fun line => splitOn ' ' line.toList

/-- What stands between a word with an opening bracket and the closing bracket at the end. -/
def inBrackets? (word : String) (t : Text) : Option Text :=
  (after? (word.toList ++ ['(']) t).bind fun r =>
    if r.getLast? = some ')' then some r.dropLast else none

/-- The number that digits of any script write. -/
def numberOf (t : Text) : Nat := t.foldl (fun n c => 10 * n + (digitValue? c).getD 0) 0

/-- Whether a text, in small letters, writes a colour by its numbers. -/
def isNumberedColour (t : Text) : Except StyleFault Bool :=
  match inBrackets? "color" t, inBrackets? "rgb" t with
  | some digits, _ =>
    .ok (!digits.isEmpty && digits.length ≤ 3 && digits.all Char.isDigit && numberOf digits ≤ 255)
  | none, some list =>
    let numbers := splitOn ',' list
    if list.isEmpty || !(list.all fun c => isDigit c || c == ',') || numbers.length ≠ 3 then
      .ok false
    else if numbers.any List.isEmpty then .error .missingNumber
    else .ok (numbers.all fun digits => numberOf digits ≤ 255)
  | none, none =>
    match t with
    | '#' :: digits => .ok (digits.length == 6 && digits.all isHexDigit)
    | _ => .ok false

/-- The name of the colour that a word writes. -/
def colour (word : Text) : Except StyleFault Text := do
  let name := lower word
  if name = noColour ∨ colourNames.contains name then .ok name
  else if ← isNumberedColour name then .ok name
  else .error .notAStyle

/-! ## Styles -/

/-- A style: the attributes that have been given or taken back, the last one first, the colours
and the target of a link. -/
structure Style where
  settings : List (Text × Bool)
  foreground : Option Text
  background : Option Text
  link : Option Text

/-- The style without any effect. -/
def Style.plain : Style := ⟨[], none, none, none⟩

/-- The style that words make of another one. -/
def Style.read (s : Style) : List Text → Except StyleFault Style
  | [] => .ok s
  | word :: words =>
    let small := lower word
    if small = "on".toList then
      match words with
      | [] => .error .notAStyle
      | word :: words => do Style.read { s with background := some (← colour word) } words
    else if small = "not".toList then
      match words with
      | [] => .error .notAStyle
      | word :: words =>
        match attribute? word with
        | none => .error .notAStyle
        | some name => Style.read { s with settings := (name, false) :: s.settings } words
    else if small = "link".toList then
      match words with
      | [] => .error .notAStyle
      | word :: words => Style.read { s with link := some word } words
    else
      match attribute? small with
      | some name => Style.read { s with settings := (name, true) :: s.settings } words
      | none => do Style.read { s with foreground := some (← colour small) } words

/-- The words of a text. -/
def wordsOf : (word : Text) → Text → List Text
  | word, [] => if word.isEmpty then [] else [word.reverse]
  | word, c :: t =>
    if isBlank c then (if word.isEmpty then [] else [word.reverse]) ++ wordsOf [] t
    else wordsOf (c :: word) t

/-- The name of the style without any effect. -/
def noEffect : Text := "none".toList

/-- The style that a text writes. -/
def Style.ofText (t : Text) : Except StyleFault Style :=
  if t.isEmpty ∨ trim t = noEffect then .ok .plain else Style.plain.read (wordsOf [] t)

/-- The words of a style's normal form. -/
def Style.words (s : Style) : List Text :=
  (attributes.flatMap fun (name, _) =>
      match s.settings.find? (·.1 == name) with
      | none => []
      | some (_, true) => [name]
      | some (_, false) => ["not".toList, name])
    ++ s.foreground.toList
    ++ (s.background.map fun name => ["on".toList, name]).getD []
    ++ (s.link.map fun target => ["link".toList, target]).getD []

/-- The normal form of a style. -/
def Style.text (s : Style) : Text := if s.words.isEmpty then noEffect else join [' '] s.words

/-- The normal form of the name of a style; a text that is no style is put in small letters. -/
def normalForm (t : Text) : Except StyleFault Text :=
  match Style.ofText t with
  | .ok s => .ok s.text
  | .error .notAStyle => .ok (lower (trim t))
  | .error .missingNumber => .error .missingNumber

end Prepress.Console
