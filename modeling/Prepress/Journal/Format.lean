/-
# Lines of a journal

A record is written after a pattern with fields for its time, its logger, its level and its
message.
-/
import Prepress.Note
import Prepress.Text.Search

namespace Prepress.Journal

open Text

/-- What is to be written to a journal. -/
structure Record where
  logger : Text
  level : Level
  message : Text

/-- The fields of a pattern and what they stand for. -/
def fields (time : Text) (r : Record) : List (Text × Text) :=
  [("%(asctime)s".toList, time), ("%(name)s".toList, r.logger),
    ("%(levelname)s".toList, r.level.name.toList), ("%(message)s".toList, r.message),
    ("%%".toList, ['%'])]

/-- What the field at the beginning of a text stands for, and the length of the field. -/
def fieldAt? (values : List (Text × Text)) (t : Text) : Option (Text × Nat) :=
  (values.find? fun field => startsWith field.1 t).map fun field => (field.2, field.1.length)

/-- A pattern with its fields filled in after the next `skip` characters. -/
def fill (values : List (Text × Text)) : (skip : Nat) → Text → Text
  | _, [] => []
  | skip + 1, _ :: t => fill values skip t
  | 0, c :: t =>
    match fieldAt? values (c :: t) with
    | some (value, length) => value ++ fill values (length - 1) t
    | none => c :: fill values 0 t

/-! ## Patterns -/

/-- Whether a text has a field. -/
def hasField (t : Text) : Bool :=
  ["%(asctime)s", "%(name)s", "%(levelname)s", "%(message)s"].any fun field =>
    occursIn field.toList t

/-- A text with a field in it. -/
structure Pattern where
  text : Text
  hasField_text : hasField text = true
deriving DecidableEq

/-- The pattern that a text is, if it has a field. -/
def Pattern.of? (t : Text) : Option Pattern :=
  if h : hasField t = true then some ⟨t, h⟩ else none

/-- The pattern of a journal that asks for none. -/
def Pattern.standard : Pattern :=
  ⟨"%(asctime)s - %(name)s - %(levelname)s - %(message)s".toList, by decide +kernel⟩

/-- The pattern that shows the message alone. -/
def Pattern.messageOnly : Pattern := ⟨"%(message)s".toList, by decide +kernel⟩

/-- The pattern that a text asks for; the empty text asks for the message alone. -/
def Pattern.ofText? (t : Text) : Option Pattern := if t.isEmpty then some messageOnly else of? t

/-- The line of a record. -/
def Pattern.line (p : Pattern) (time : Text) (r : Record) : Text :=
  fill (fields time r) 0 p.text ++ ['\n']

end Prepress.Journal
