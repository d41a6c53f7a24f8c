/-
# Dates and times in the international form

A date is a year, a month and a day, or a year, a week and perhaps a day of the week, with
hyphens everywhere or nowhere.  Any one character may stand between the date and a time of
day.  The time is given to the hour, the minute, the second or a fraction of it, with colons
everywhere or nowhere, and an offset from universal time may follow; the offset is checked and
then left out of account.
-/
import Prepress.Calendar.Instant
import Prepress.Text.Digit

namespace Prepress.Calendar.Iso

open Text

/-! ## Numbers -/

/-- The number that a text of ASCII digits, and of nothing else, denotes. -/
def number? (t : Text) : Option Nat :=
  if t.all Char.isDigit then some (digitsToNat t) else none

/-! ## Dates -/

/-- The date that a text of the international form names. -/
def date? : Text → Option Date
  | y₁ :: y₂ :: y₃ :: y₄ :: t => do
    let year ← number? [y₁, y₂, y₃, y₄]
    match t with
    | ['-', 'W', w₁, w₂] => Date.ofWeek? year (← number? [w₁, w₂]) 1
    | ['-', 'W', w₁, w₂, '-', d] => Date.ofWeek? year (← number? [w₁, w₂]) (← number? [d])
    | ['W', w₁, w₂] => Date.ofWeek? year (← number? [w₁, w₂]) 1
    | ['W', w₁, w₂, d] => Date.ofWeek? year (← number? [w₁, w₂]) (← number? [d])
    | ['-', m₁, m₂, '-', d₁, d₂] => Date.of? year (← number? [m₁, m₂]) (← number? [d₁, d₂])
    | [m₁, m₂, d₁, d₂] => Date.of? year (← number? [m₁, m₂]) (← number? [d₁, d₂])
    | _ => none
  | _ => none

/-- The length of the date at the beginning of a text, judged by its hyphens, by a `W` and by
the run of digits after it. -/
def dateLength (t : Text) : Nat :=
  if t.length = 7 then 7
  else
    match t.drop 4 with
    | '-' :: 'W' :: _ :: _ :: '-' :: _ :: c :: _ => if c.isDigit then 8 else 10
    | '-' :: 'W' :: _ :: _ :: '-' :: _ => 10
    | '-' :: 'W' :: _ => 8
    | '-' :: _ => 10
    | 'W' :: _ =>
      let digits := ((t.drop 7).takeWhile Char.isDigit).length
      if digits < 2 then 7 + digits
      else if digits % 2 = 0 then 8
      else 7
    | _ => 8

/-! ## Times -/

/-- A time as it is read: its parts, not yet checked for range, and whether text is left. -/
structure Reading where
  hour : Nat
  minute : Nat
  second : Nat
  micro : Nat
  leftover : Bool

/-- Whether a text goes on: a null character counts as its end. -/
def goesOn : Text → Bool
  | [] => false
  | c :: _ => c.toNat != 0

/-- The microseconds of a fraction of a second: up to six digits count, more are passed over. -/
def fraction? (t : Text) : Option (Nat × Bool) := do
  let shown := t.take 6
  let n ← number? shown
  pure (n * Nat.pow 10 (6 - shown.length), goesOn ((t.drop 6).dropWhile Char.isDigit))

/-- What may follow a part of a time. -/
inductive Continuation where
  | finish (leftover : Bool)
  | next (rest : Text)
  | fraction (rest : Text)

/-- How a time goes on after one of its parts.  A single character at the end is left over. -/
def continuation? (colons : Bool) : Text → Option Continuation
  | [] => some (.finish false)
  | [c] => if c.toNat < 128 then some (.finish (c.toNat != 0)) else none
  | c :: t =>
    if colons && c == ':' then some (.next t)
    else if c == '.' || c == ',' then some (.fraction t)
    else if colons then none
    else some (.next (c :: t))

/-- The two digits at the beginning of a text, and the rest. -/
def twoDigits? : Text → Option (Nat × Text)
  | a :: b :: t => (number? [a, b]).map (·, t)
  | _ => none

/-- Reads a time of day, or an offset, to the end of a text. -/
def reading? (t : Text) : Option Reading := do
  let (hour, t) ← twoDigits? t
  let colons := t.head? == some ':'
  match ← continuation? colons t with
  | .finish leftover => pure ⟨hour, 0, 0, 0, leftover⟩
  | .fraction t => do
    let (micro, leftover) ← fraction? t
    pure ⟨hour, 0, 0, micro, leftover⟩
  | .next t => do
    let (minute, t) ← twoDigits? t
    match ← continuation? colons t with
    | .finish leftover => pure ⟨hour, minute, 0, 0, leftover⟩
    | .fraction t => do
      let (micro, leftover) ← fraction? t
      pure ⟨hour, minute, 0, micro, leftover⟩
    | .next t => do
      let (second, t) ← twoDigits? t
      match ← continuation? colons t with
      | .finish leftover => pure ⟨hour, minute, second, 0, leftover⟩
      | .fraction t | .next t => do
        let (micro, leftover) ← fraction? t
        pure ⟨hour, minute, second, micro, leftover⟩

/-- The time of day of a reading, if there is one. -/
def Reading.clock? (r : Reading) : Option Clock := Clock.of? r.hour r.minute r.second r.micro

/-- Whether an offset leaves nothing over and is less than a day. -/
def Reading.isOffset (r : Reading) : Bool :=
  !r.leftover
    && ((r.hour * 60 + r.minute) * 60 + r.second) * 1000000 + r.micro < dayMicros

/-- Whether a character begins an offset. -/
def beginsOffset (c : Char) : Bool := c == '+' || c == '-' || c == 'Z'

/-- The time of day that a text names, an offset left out of account. -/
def clock? (t : Text) : Option Clock := do
  let r ← reading? (t.takeWhile fun c => !beginsOffset c)
  match t.dropWhile fun c => !beginsOffset c with
  | [] => if r.leftover then none else r.clock?
  | 'Z' :: rest => if goesOn rest then none else r.clock?
  | _ :: rest => do
    let offset ← reading? rest
    if offset.isOffset then r.clock? else none

/-! ## Moments -/

/-- The moment that a text of the international form names. -/
def instant? (t : Text) : Option Instant :=
  if t.length < 7 then none
  else do
    let date ← date? (t.take (dateLength t))
    match t.drop (dateLength t) with
    | [] => pure (Instant.midnight date)
    | _ :: time => do
      let clock ← clock? time
      pure (Instant.ofDate date clock)

end Prepress.Calendar.Iso
