/-
# The printing surface

The surface draws Latin-1, two blocks of extended Latin and three dashes as they are.  A table
gives plain spellings or named references for common symbols, and every other character
becomes a numeric reference.
-/
import Prepress.Text.Search
import Prepress.Text.Numeral

namespace Prepress.Surface

open Text

/-! ## Characters that are drawn as they are -/

/-- Whether a code point above Latin-1 is drawn as it is. -/
def isKnownSafe (codePoint : Int) : Bool :=
  (0x0100 ≤ codePoint && codePoint ≤ 0x024F) || codePoint == 0x2010 || codePoint == 0x2011
    || codePoint == 0x2012

/-! ## Symbols with a spelling of their own -/

/-- The symbols and their spellings. -/
def symbols : List (Char × Text) :=
  [('→', "->"), ('←', "<-"), ('↑', "^"), ('↓', "v"), ('↔', "<->"), ('⟶', "->"), ('⟵', "<-"),
    ('≠', "&ne;"), ('≤', "&le;"), ('≥', "&ge;"), ('±', "&plusmn;"), ('×', "&times;"),
    ('÷', "&divide;"), ('∞', "&infin;"), ('√', "&radic;"), ('€', "&euro;"), ('£', "&pound;"),
    ('¥', "&yen;"), ('©', "&copy;"), ('®', "&reg;"), ('™', "&trade;"), ('§', "&sect;"),
    ('“', "&ldquo;"), ('”', "&rdquo;"), ('‘', "&lsquo;"), ('’', "&rsquo;"), ('…', "..."),
    ('–', "-"), ('α', "&alpha;"), ('β', "&beta;"), ('γ', "&gamma;"), ('δ', "&delta;"),
    ('π', "&pi;"), ('Ω', "&Omega;"), ('°', "&deg;"), ('µ', "&micro;"), ('¼', "&frac14;"),
    ('½', "&frac12;"), ('¾', "&frac34;")].map fun (symbol, spelling) => (symbol, spelling.toList)

/-- The numeric reference for a character that the surface does not draw, else the character. -/
def reference (c : Char) : Text :=
  if 255 < c.toNat ∧ ¬ isKnownSafe c.toNat then ['&', '#'] ++ ofNat c.toNat ++ [';'] else [c]

/-- A text made safe for the surface: the symbols are spelled out one after the other, then
the remaining characters are referred to by number. -/
def sanitize (t : Text) : Text :=
  (symbols.foldl (fun t s => replaceChar s.1 s.2 t) t).flatMap reference

/-! ## Character by character -/

/-- The safe form of a single character. -/
def safeForm (c : Char) : Text :=
  match symbols.find? (·.1 == c) with
  | some s => s.2
  | none => reference c

/-- Whether a character may stand in a safe text. -/
def isSafe (c : Char) : Bool :=
  (c.toNat ≤ 255 && !(symbols.any (·.1 == c))) || isKnownSafe c.toNat

end Prepress.Surface
