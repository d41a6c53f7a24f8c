/-
# Stamps

A stamp is a date and time written after a pattern.  In a pattern, a percent sign begins a
directive: flags, a width, a modifier and a letter.  The directive is replaced by the part of
the moment that its letter names; one that is unknown stays as it is.
-/
import Prepress.Calendar.Instant
import Prepress.Calendar.Names
import Prepress.Text.Case
import Prepress.Text.Numeral
import Prepress.Text.Digit
import Prepress.Text.Lines

namespace Prepress.Calendar

open Text

/-! ## Plain dates -/

/-- Year, month and day with hyphens; month and day have two digits, the year as many as it
needs. -/
def hyphenated (d : Date) : Text :=
  ofNat d.year ++ ['-'] ++ zeroPadded 2 d.month ++ ['-'] ++ zeroPadded 2 d.day

/-- The month's abbreviation and the day. -/
def monthAndDay (d : Date) : Text :=
  monthAbbreviations.getD (d.month - 1) [] ++ [' '] ++ ofNat d.day

namespace Stamp

/-! ## Directives -/

/-- How a number is filled up. -/
inductive Fill where
  | standard
  | zeros
  | spaces
  | nothing
deriving DecidableEq

/-- What stands between a percent sign and the letter of a directive. -/
structure Options where
  fill : Fill
  upper : Bool
  swap : Bool
  width : Nat
  modifier : Option Char

/-- The options of a bare directive. -/
def Options.plain : Options := ⟨.standard, false, false, 0, none⟩

/-- Fills a text up to the width of the directive, with zeros if it asks for them. -/
def Options.fillUp (o : Options) (t : Text) : Text :=
  padLeft (if o.fill = .zeros then '0' else ' ') o.width t

/-- A word in the letter case that the directive asks for. -/
def Options.word (o : Options) (upper lower : Bool) (t : Text) : Text :=
  o.fillUp (if lower then t.map Char.toLower else if upper then t.map upperChar else t)

/-- A number with at least so many digits, filled up with zeros unless the directive says
otherwise. -/
def Options.number (o : Options) (digits n : Nat) : Text :=
  o.fillUp <|
    match o.fill with
    | .nothing => ofNat n
    | .spaces => padLeft ' ' (max digits o.width) (ofNat n)
    | _ => zeroPadded (max digits o.width) n

/-- A number with at least two places, filled up with spaces unless the directive says
otherwise. -/
def Options.spacedNumber (o : Options) (n : Nat) : Text :=
  if o.fill = .standard then { o with fill := .spaces }.number 2 n else o.number 2 n

/-- The hour on a twelve-hour dial. -/
def dialHour (c : Clock) : Nat := if c.hour % 12 = 0 then 12 else c.hour % 12

/-- The half of the day. -/
def halfDay (c : Clock) : Text := (if c.hour < 12 then "AM" else "PM").toList

/-- The weekday counted from Sunday. -/
def sundayWeekday (d : Date) : Nat := (d.weekday + 1) % 7

/-- Seconds since the beginning of 1970. -/
def unixSeconds (i : Instant) : Int := ((i.micros / 1000000 : Nat) : Int) - 62135596800

/-- Two-digit parts with a mark between them. -/
def marked (mark : Char) (parts : List Nat) : Text := join [mark] (parts.map (zeroPadded 2))

/-- The time of day to the second. -/
def timeText (c : Clock) : Text := marked ':' [c.hour, c.minute, c.second]

/-- Month, day and year of the century between slashes. -/
def slashed (d : Date) : Text := marked '/' [d.month, d.day, d.year % 100]

/-- The names of weekday and month, the day, the time and the year. -/
def fullText (d : Date) (c : Clock) : Text :=
  (weekdayNames.getD d.weekday []).take 3 ++ [' '] ++ monthAbbreviations.getD (d.month - 1) []
    ++ [' '] ++ padLeft ' ' 2 (ofNat d.day) ++ [' '] ++ timeText c ++ [' '] ++ ofNat d.year

/-- The time on a twelve-hour dial. -/
def dialText (c : Clock) : Text :=
  marked ':' [dialHour c, c.minute, c.second] ++ [' '] ++ halfDay c

/-- Whether the letter may carry the modifier. -/
def admits (modifier : Option Char) (letter : Char) : Bool :=
  match modifier with
  | none => true
  | some 'E' => letter ∈ "cnprstuxyzCPRTXYZ".toList
  | some _ => letter ∈ "bdeghjklmnprstuwyzBCGHIMPRSTUVWZ".toList

/-- The part of a moment that a letter names; none for an unknown letter. -/
def part? (i : Instant) (o : Options) (letter : Char) : Option Text :=
  let d := i.date
  let c := i.clock
  let name (names : List Text) (k : Nat) : Text :=
    o.word (o.upper || o.swap) false (names.getD k [])
  let compound (t : Text) : Text := o.word o.upper false t
  if !admits o.modifier letter then none
  else
    match letter with
    | 'a' => some (name (weekdayNames.map (·.take 3)) d.weekday)
    | 'A' => some (name weekdayNames d.weekday)
    | 'b' | 'h' => some (name monthAbbreviations (d.month - 1))
    | 'B' => some (name monthNames (d.month - 1))
    | 'c' => some (compound (fullText d c))
    | 'C' => some (o.number 1 (d.year / 100))
    | 'd' => some (o.number 2 d.day)
    | 'D' | 'x' => some (compound (slashed d))
    | 'e' => some (o.spacedNumber d.day)
    | 'F' => some (compound (hyphenated d))
    | 'g' => some (o.number 2 (d.isoWeek.1 % 100))
    | 'G' => some (o.number 1 d.isoWeek.1)
    | 'H' => some (o.number 2 c.hour)
    | 'I' => some (o.number 2 (dialHour c))
    | 'j' => some (o.number 3 (d.dayOfYear + 1))
    | 'k' => some (o.spacedNumber c.hour)
    | 'l' => some (o.spacedNumber (dialHour c))
    | 'm' => some (o.number 2 d.month)
    | 'M' => some (o.number 2 c.minute)
    | 'n' => some (o.fillUp ['\n'])
    | 'p' => some (o.word o.upper o.swap (halfDay c))
    | 'P' => some (o.word false true (halfDay c))
    | 'r' => some (compound (dialText c))
    | 'R' => some (compound (marked ':' [c.hour, c.minute]))
    | 's' => some (o.fillUp (Text.ofInt (unixSeconds i)))
    | 'S' => some (o.number 2 c.second)
    | 't' => some (o.fillUp ['\t'])
    | 'T' | 'X' => some (compound (timeText c))
    | 'u' => some (o.number 1 (d.weekday + 1))
    | 'U' => some (o.number 2 ((d.dayOfYear + 7 - sundayWeekday d) / 7))
    | 'V' => some (o.number 2 d.isoWeek.2)
    | 'w' => some (o.number 1 (sundayWeekday d))
    | 'W' => some (o.number 2 ((d.dayOfYear + 7 - d.weekday) / 7))
    | 'y' => some (o.number 2 (d.year % 100))
    | 'Y' => some (o.number 1 d.year)
    | 'z' => some []
    | 'Z' => some (o.fillUp [])
    | _ => none

/-! ## Patterns -/

/-- The flags at the beginning of a directive; the last word on filling up counts. -/
def readFlags (o : Options) : Text → Options × Text
  | '_' :: t => readFlags { o with fill := .spaces } t
  | '-' :: t => readFlags { o with fill := .nothing } t
  | '0' :: t => readFlags { o with fill := .zeros } t
  | '^' :: t => readFlags { o with upper := true } t
  | '#' :: t => readFlags { o with swap := true } t
  | t => (o, t)

/-- Reads the flags, the width and the modifier of a directive.  No width counts beyond
`limit`. -/
def readOptions (limit : Nat) (t : Text) : Options × Text :=
  let (o, t) := readFlags Options.plain t
  let o := { o with width := min limit (digitsToNat (t.takeWhile Char.isDigit)) }
  match t.dropWhile Char.isDigit with
  | 'E' :: t => ({ o with modifier := some 'E' }, t)
  | 'O' :: t => ({ o with modifier := some 'O' }, t)
  | t => (o, t)

/-- The text of one directive, which begins after its percent sign, and the number of
characters that it takes. -/
def directive (limit : Nat) (i : Instant) (t : Text) : Text × Nat :=
  let (o, rest) := readOptions limit t
  let used := t.length - rest.length
  match rest with
  | [] => (o.word o.upper false ('%' :: t), used)
  | '%' :: _ => (o.fillUp ['%'], used + 1)
  | letter :: _ =>
    match part? i o letter with
    | some text => (text, used + 1)
    | none =>
      let upper := o.upper || (o.swap && (letter == 'b' || letter == 'h'))
      (o.word upper false ('%' :: t.take (used + 1)), used + 1)

/-- Expands the directives of a pattern after its next `skip` characters. -/
def expand (limit : Nat) (i : Instant) : (skip : Nat) → Text → Text
  | _, [] => []
  | skip + 1, _ :: t => expand limit i skip t
  | 0, c :: t =>
    if c = '%' then
      let (text, used) := directive limit i t
      text ++ expand limit i used t
    else c :: expand limit i 0 t

/-- Puts the microseconds for `%f` and nothing for `%z` and `%Z`.  A null character ends the
pattern. -/
def expandFraction (i : Instant) : Text → Text
  | [] => []
  | '%' :: 'f' :: t => zeroPadded 6 i.clock.micro ++ expandFraction i t
  | '%' :: 'z' :: t => expandFraction i t
  | '%' :: 'Z' :: t => expandFraction i t
  | '%' :: c :: t => if c.toNat = 0 then ['%'] else '%' :: c :: expandFraction i t
  | c :: t => if c.toNat = 0 then [] else c :: expandFraction i t

/-- The least of `room`, twice `room`, four times `room`, … that is at least `size`, looked
for in so many steps. -/
def roomFor (size : Nat) : (steps room : Nat) → Nat
  | 0, room => room
  | steps + 1, room => if size ≤ room then room else roomFor size steps (2 * room)

/-- The moment written after a pattern.  A stamp that is far longer than its pattern is
empty. -/
def format (i : Instant) (pattern : Text) : Text :=
  let pattern := expandFraction i pattern
  let size := 256 * pattern.length
  let room := roomFor size size 1024
  let stamp := expand room i 0 pattern
  if stamp.length < room then stamp else []

end Stamp

end Prepress.Calendar
