/-
# Forms of dates

A form is a row of pieces: a year of four digits, a month or a day of one or two digits, a
month's name, marks and gaps.  A text is of the form when the pieces, each taken once from the
left, use it up; the numbers read must then make a date.
-/
import Prepress.Calendar.Names
import Prepress.Calendar.Date
import Prepress.Text.Digit
import Prepress.Text.Lines

namespace Prepress.Calendar

open Text

/-! ## Pieces -/

/-- One piece of a form. -/
inductive Piece where
  | year
  | month
  | day
  | monthName
  | monthAbbreviation
  | mark (c : Char)
  | gap
deriving DecidableEq

/-- The parts of a date as far as they have been read. -/
structure Parts where
  year : Nat
  month : Nat
  day : Nat

namespace Piece

/-- A year: four decimal digits, of any script. -/
def readYear? : Text → Option (Nat × Text)
  | a :: b :: c :: d :: t => do
    let a ← digitValue? a
    let b ← digitValue? b
    let c ← digitValue? c
    let d ← digitValue? d
    pure (((a * 10 + b) * 10 + c) * 10 + d, t)
  | _ => none

/-- A month: `10`, `11` or `12`, or one digit from `1` to `9`, which may follow a zero. -/
def readMonth? : Text → Option (Nat × Text)
  | '1' :: '0' :: t => some (10, t)
  | '1' :: '1' :: t => some (11, t)
  | '1' :: '2' :: t => some (12, t)
  | '0' :: c :: t => if '1' ≤ c ∧ c ≤ '9' then some (c.toNat - 48, t) else none
  | c :: t => if '1' ≤ c ∧ c ≤ '9' then some (c.toNat - 48, t) else none
  | [] => none

/-- A day: `30` or `31`, a `1` or `2` and a digit of any script, or one digit from `1` to `9`,
which may follow a zero or a space. -/
def readDay? : Text → Option (Nat × Text)
  | '3' :: '0' :: t => some (30, t)
  | '3' :: '1' :: t => some (31, t)
  | '3' :: t => some (3, t)
  | '0' :: c :: t => if '1' ≤ c ∧ c ≤ '9' then some (c.toNat - 48, t) else none
  | ' ' :: c :: t => if '1' ≤ c ∧ c ≤ '9' then some (c.toNat - 48, t) else none
  | a :: t =>
    if '1' ≤ a ∧ a ≤ '2' then
      match t with
      | [] => some (a.toNat - 48, [])
      | b :: r =>
        match digitValue? b with
        | some v => some ((a.toNat - 48) * 10 + v, r)
        | none => some (a.toNat - 48, b :: r)
    else if '4' ≤ a ∧ a ≤ '9' then some (a.toNat - 48, t)
    else none
  | [] => none

/-- A gap: one blank or more. -/
def readGap? : Text → Option Text
  | [] => none
  | c :: t => if isBlank c then some (trimStart t) else none

/-- Reads one piece. -/
def read? (p : Piece) (parts : Parts) (t : Text) : Option (Parts × Text) :=
  match p with
  | .year => (readYear? t).map fun (n, r) => ({ parts with year := n }, r)
  | .month => (readMonth? t).map fun (n, r) => ({ parts with month := n }, r)
  | .day => (readDay? t).map fun (n, r) => ({ parts with day := n }, r)
  | .monthName => (readName? monthNames t).map fun (n, r) => ({ parts with month := n }, r)
  | .monthAbbreviation =>
    (readName? monthAbbreviations t).map fun (n, r) => ({ parts with month := n }, r)
  | .mark c =>
    match t with
    | [] => none
    | d :: r => if c = d then some (parts, r) else none
  | .gap => (readGap? t).map fun r => (parts, r)

end Piece

/-! ## Forms -/

/-- A form is a row of pieces. -/
abbrev Form := List Piece

namespace Form

/-- Reads the pieces of a form one after the other. -/
def readPieces? : Form → Parts → Text → Option (Parts × Text)
  | [], parts, t => some (parts, t)
  | p :: ps, parts, t => do
    let (parts, t) ← p.read? parts t
    readPieces? ps parts t

/-- The date that a whole text of the form names. -/
def read? (f : Form) (t : Text) : Option Date :=
  match readPieces? f ⟨1, 1, 1⟩ t with
  | some (parts, []) => Date.of? parts.year parts.month parts.day
  | _ => none

/-- Year, month and day between two marks. -/
def yearMonthDay (mark : Char) : Form := [.year, .mark mark, .month, .mark mark, .day]

/-- Month, day and year between slashes. -/
def monthDayYear : Form := [.month, .mark '/', .day, .mark '/', .year]

/-- The forms that need no shape, in the order in which they are tried. -/
def general : List Form :=
  [[.day, .gap, .monthAbbreviation, .gap, .year],
    [.day, .gap, .monthName, .gap, .year],
    [.monthAbbreviation, .gap, .day, .gap, .year],
    [.monthName, .gap, .day, .gap, .year],
    [.monthAbbreviation, .gap, .day, .mark ',', .gap, .year],
    [.monthName, .gap, .day, .mark ',', .gap, .year],
    [.day, .mark '-', .monthAbbreviation, .mark '-', .year],
    [.day, .mark '.', .month, .mark '.', .year],
    yearMonthDay '.']

end Form

/-! ## Shapes -/

/-- A shape: runs of digits, each with its least and greatest length, between marks. -/
structure Shape where
  mark : Char
  first : Nat × Nat
  second : Nat × Nat
  third : Nat × Nat

/-- Whether a text is a run of decimal digits of a length within the bounds. -/
def isDigitRun (bounds : Nat × Nat) (t : Text) : Bool :=
  bounds.1 ≤ t.length && t.length ≤ bounds.2 && t.all isDigit

namespace Shape

/-- Whether a text has the shape. -/
def fits (s : Shape) (t : Text) : Bool :=
  match splitOn s.mark t with
  | [a, b, c] => isDigitRun s.first a && isDigitRun s.second b && isDigitRun s.third c
  | _ => false

/-- The shapes of all-digit dates and their forms, in the order in which they are tried. -/
def numeric : List (Shape × Form) :=
  [(⟨'-', (4, 4), (2, 2), (2, 2)⟩, Form.yearMonthDay '-'),
    (⟨'-', (4, 4), (1, 2), (1, 2)⟩, Form.yearMonthDay '-'),
    (⟨'/', (4, 4), (1, 2), (1, 2)⟩, Form.yearMonthDay '/'),
    (⟨'/', (2, 2), (2, 2), (4, 4)⟩, Form.monthDayYear),
    (⟨'/', (1, 2), (1, 2), (4, 4)⟩, Form.monthDayYear)]

end Shape

end Prepress.Calendar
