/-
# Lines

A text falls into lines at every line boundary of Unicode.  A carriage return with the line
feed after it is one boundary, and a boundary at the end of the text opens no further line.
-/
import Prepress.Text.Blank

namespace Prepress.Text

/-! ## Line boundaries -/

/-- Line feed, vertical tab, form feed, carriage return, the file, group and record
separators, next line, and the line and paragraph separators. -/
def isLineBreak (c : Char) : Bool :=
  let n := c.toNat
  (0x0A ≤ n && n ≤ 0x0D) || (0x1C ≤ n && n ≤ 0x1E) || n == 0x85 || n == 0x2028 || n == 0x2029

/-- Puts a character before the first line, which is begun if there is none. -/
def consLine (c : Char) : List Text → List Text
  | [] => [[c]]
  | l :: ls => (c :: l) :: ls

/-- The lines of a text, without their boundaries. -/
def lines : Text → List Text
  | [] => []
  | '\r' :: '\n' :: t => [] :: lines t
  | c :: t => if isLineBreak c then [] :: lines t else consLine c (lines t)

/-- The trimmed lines of a text that are not blank. -/
def contentLines (t : Text) : List Text :=
  (lines t).filterMap fun l => if isAllBlank l then none else some (trim l)

/-- Every line boundary is a blank. -/
theorem isBlank_of_isLineBreak {c : Char} (h : isLineBreak c = true) : isBlank c = true := by
  simp only [isLineBreak, isBlank, Bool.or_eq_true, Bool.and_eq_true, decide_eq_true_eq,
    beq_iff_eq] at h ⊢
  omega

/-! ## Line feeds only -/

/-- Carriage returns, alone or before a line feed, become one line feed. -/
def normalizeNewlines : Text → Text
  | [] => []
  | '\r' :: '\n' :: t => '\n' :: normalizeNewlines t
  | '\r' :: t => '\n' :: normalizeNewlines t
  | c :: t => c :: normalizeNewlines t

/-- The pieces of a text between the occurrences of a character; there is always one more
piece than there are occurrences. -/
def splitOn (mark : Char) : Text → List Text
  | [] => [[]]
  | c :: t => if c = mark then [] :: splitOn mark t else consLine c (splitOn mark t)

/-- The pieces joined by a text. -/
def join (between : Text) : List Text → Text
  | [] => []
  | [l] => l
  | l :: ls => l ++ between ++ join between ls

theorem splitOn_ne_nil (mark : Char) (t : Text) : splitOn mark t ≠ [] := by
  cases t with
  | nil => simp [splitOn]
  | cons c t =>
    simp only [splitOn]
    split
    · simp
    · cases splitOn mark t <;> simp [consLine]

/-- Splitting at a character and joining with it gives the text again. -/
theorem join_splitOn (mark : Char) (t : Text) : join [mark] (splitOn mark t) = t := by
  induction t with
  | nil => rfl
  | cons c t ih =>
    simp only [splitOn]
    split
    · next h =>
      subst h
      cases hs : splitOn c t with
      | nil => exact absurd hs (splitOn_ne_nil c t)
      | cons l ls => rw [hs] at ih; simp [join, ih]
    · cases hs : splitOn mark t with
      | nil => exact absurd hs (splitOn_ne_nil mark t)
      | cons l ls =>
        rw [hs] at ih
        cases ls with
        | nil => simpa [consLine, join] using ih
        | cons m ms => simpa [consLine, join] using ih

end Prepress.Text
