/-
# Characters by name

A character of Unicode, version 14, has a name in capital letters, and some have other names.
Most names stand in a table, where capitals and small letters are not told apart.  The name of a
unified ideograph ends in its number, and the name of a Korean syllable in the letters that the
syllable is made of.
-/
import Prepress.Text.Digit
import Prepress.Text.Lines
import Prepress.Text.NameTable
import Prepress.Text.Range
import Prepress.Text.Search

namespace Prepress.Text

/-! ## Ideographs -/

/-- The unified ideographs. -/
def ideographRanges : List Range :=
  [
    (0x3400, 0x4DBF), (0x4E00, 0x9FFF), (0x20000, 0x2A6DF), (0x2A700, 0x2B738),
    (0x2B740, 0x2B81D), (0x2B820, 0x2CEA1), (0x2CEB0, 0x2EBE0), (0x30000, 0x3134A)
  ]

/-- Whether a text is the name of a unified ideograph: its number has four or five digits in base
sixteen, with capital letters. -/
def isIdeographName (t : Text) : Bool :=
  match after? "CJK UNIFIED IDEOGRAPH-".toList t with
  | none => false
  | some number =>
    (number.length == 4 || number.length == 5)
      && number.all (fun c => isHexDigit c && !c.isLower)
      && inRanges ideographRanges (Char.ofNat (hexToNat number))

/-! ## Syllables -/

/-- The consonants that a syllable may begin with, as they stand in its name. -/
def syllableStarts : List Text :=
  ["G", "GG", "N", "D", "DD", "R", "M", "B", "BB", "S", "SS", "", "J", "JJ", "C", "K", "T", "P",
    "H"].map String.toList

/-- The vowels of syllables, as they stand in their names. -/
def syllableVowels : List Text :=
  ["A", "AE", "YA", "YAE", "EO", "E", "YEO", "YE", "O", "WA", "WAE", "OE", "YO", "U", "WEO", "WE",
    "WI", "YU", "EU", "YI", "I"].map String.toList

/-- The consonants that a syllable may end with, as they stand in its name. -/
def syllableEnds : List Text :=
  ["", "G", "GG", "GS", "N", "NJ", "NH", "D", "L", "LG", "LM", "LB", "LS", "LT", "LP", "LH", "M",
    "B", "BS", "S", "SS", "NG", "J", "C", "K", "T", "P", "H"].map String.toList

/-- Whether a text is the name of a Korean syllable. -/
def isSyllableName (t : Text) : Bool :=
  (after? "HANGUL SYLLABLE ".toList t).any fun letters =>
    syllableStarts.any fun start =>
      (after? start letters).any fun letters =>
        syllableVowels.any fun vowel =>
          (after? vowel letters).any fun ending => syllableEnds.contains ending

/-! ## All names -/

/-- Whether words, and after them a last word, are a name in the table. -/
def isListedName (shared last : Text) : Bool :=
  (splitOn ';' (nameEntries.toList.filter (· != '\n'))).any fun entry =>
    (after? (shared ++ ['=']) entry).any fun lasts => (splitOn ',' lasts).contains last

/-- Whether a text is the name of a character. -/
def isName (t : Text) : Bool :=
  let capital := t.map Char.toUpper
  let last := (capital.reverse.takeWhile (· != ' ')).reverse
  let shared := capital.take (capital.length - last.length - 1)
  let listed := if shared.isEmpty && last != capital then false else isListedName shared last
  isIdeographName t || isSyllableName t || listed

end Prepress.Text
