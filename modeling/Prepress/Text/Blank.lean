/-
# Blank characters

Texts are lists of characters.  A character is *blank* when Unicode counts it as white
space or as a separator of lines, paragraphs, records or units.  Trimming removes blanks
from the ends of a text, and compacting removes all of them.
-/

namespace Prepress

/-- A text is the list of its characters. -/
abbrev Text := List Char

namespace Text

/-! ## The class of blanks -/

/-- Space, the six ASCII layout controls, the four information separators, and the
spaces of Unicode. -/
def isBlank (c : Char) : Bool :=
  let n := c.toNat
  n == 0x20 || (0x09 ≤ n && n ≤ 0x0D) || (0x1C ≤ n && n ≤ 0x1F) || n == 0x85 || n == 0xA0
    || n == 0x1680 || (0x2000 ≤ n && n ≤ 0x200A) || n == 0x2028 || n == 0x2029
    || n == 0x202F || n == 0x205F || n == 0x3000

/-- Everything that the core library calls white space is blank. -/
theorem isBlank_of_isWhitespace {c : Char} (h : c.isWhitespace = true) : isBlank c = true := by
  simp only [Char.isWhitespace, Bool.or_eq_true, decide_eq_true_eq] at h
  rcases h with ((h | h) | h) | h <;> subst h <;> decide

/-- Whether a character is a space or a tabulator. -/
def isIndent (c : Char) : Bool := c == ' ' || c == '\t'

/-- A text is blank when all its characters are; the empty text is. -/
def isAllBlank (t : Text) : Bool := t.all isBlank

/-! ## Trimming -/

/-- The text without its leading blanks. -/
def trimStart (t : Text) : Text := t.dropWhile isBlank

/-- The text without its trailing blanks. -/
def trimEnd : Text → Text
  | [] => []
  | c :: t =>
    match trimEnd t with
    | [] => if isBlank c then [] else [c]
    | kept => c :: kept

/-- The text without blanks at either end. -/
def trim (t : Text) : Text := trimEnd (trimStart t)

/-- The text without any blank. -/
def compact (t : Text) : Text := t.filter (fun c => !isBlank c)

theorem length_dropWhile_le (p : Char → Bool) (t : Text) :
    (t.dropWhile p).length ≤ t.length := by
  induction t with
  | nil => simp
  | cons c t ih =>
    simp only [List.dropWhile_cons]
    split
    · simp only [List.length_cons]; omega
    · simp

theorem not_isBlank_of_mem_compact {t : Text} {c : Char} (h : c ∈ compact t) :
    isBlank c = false := by
  simpa using (List.mem_filter.1 h).2

theorem compact_append (a b : Text) : compact (a ++ b) = compact a ++ compact b := by
  simp [compact]

end Text

end Prepress
