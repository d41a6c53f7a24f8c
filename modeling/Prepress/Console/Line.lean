/-
# Lines on the console

A line on the console may hold tags in square brackets, which set its style or name a handler,
and are not shown.  A tag begins with a small letter or one of three marks, and may have
parameters after an equals sign.  Backslashes before a bracket keep it from opening a tag.  A
closing tag must close a tag that is open.
-/
import Prepress.Console.Cell
import Prepress.Console.Emoji
import Prepress.Console.Literal
import Prepress.Console.Style

namespace Prepress.Console

open Text

/-! ## Tags -/

/-- A tag with what follows its equals sign. -/
structure Tag where
  name : Text
  parameters : Option Text
deriving DecidableEq

/-- The tag that stands in brackets. -/
def Tag.ofText (t : Text) : Tag :=
  match cut? ['='] t with
  | some (name, parameters) => ⟨name, some parameters⟩
  | none => ⟨t, none⟩

/-- The style that a tag sets. -/
def Tag.style (tag : Tag) : Text :=
  tag.name ++ (tag.parameters.map fun parameters => ' ' :: parameters).getD []

/-- Whether a character may come first in a tag. -/
def beginsTag (c : Char) : Bool :=
  ('a' ≤ c && c ≤ 'z') || c == '#' || c == '/' || c == '@'

/-- What stands in the brackets of a tag, after the opening one. -/
def inTag? : Text → Option Text
  | [] => none
  | c :: t =>
    let inside := t.takeWhile fun d => d != ']' && d != '['
    if beginsTag c && t[inside.length]? == some ']' then some (c :: inside) else none

/-! ## Pieces -/

/-- A piece of a line: some of its characters, characters that backslashes have kept from being
a tag, or a tag. -/
inductive Piece where
  | plain (t : Text)
  | kept (t : Text)
  | tag (tag : Tag)
deriving DecidableEq

/-- The pieces of a tag at the beginning of a text, with the backslashes before it, and the
number of characters that they take.  Of two backslashes one is shown, and a backslash left
over shows the tag. -/
def tagAt? (t : Text) : Option (List Piece × Nat) :=
  let slashes := (t.takeWhile (· == '\\')).length
  match t.drop slashes with
  | '[' :: r =>
    (inTag? r).map fun inside =>
      let before := if slashes < 2 then [] else [Piece.kept (List.replicate (slashes / 2) '\\')]
      let last :=
        if slashes % 2 = 0 then Piece.tag (.ofText inside)
        else .kept ('[' :: inside ++ [']'])
      (before ++ [last], slashes + inside.length + 2)
  | _ => none

/-- Puts a character before the first piece, if that is plain. -/
def consPlain (c : Char) : List Piece → List Piece
  | .plain t :: pieces => .plain (c :: t) :: pieces
  | pieces => .plain [c] :: pieces

/-- The pieces of a text after its next `skip` characters. -/
def pieces : (skip : Nat) → Text → List Piece
  | _, [] => []
  | skip + 1, _ :: t => pieces skip t
  | 0, c :: t =>
    match tagAt? (c :: t) with
    | some (found, length) => found ++ pieces (length - 1) t
    | none => consPlain c (pieces 0 t)

/-! ## What is shown -/

/-- What can be wrong with a line. -/
inductive LineFault where
  | nothingToClose
  | noHandler
  | missingNumber
deriving DecidableEq

/-- The wording of a fault. -/
def LineFault.message : LineFault → Text
  | .nothingToClose => "A closing tag has nothing to close".toList
  | .noHandler => "A tag has no handler in its parameters".toList
  | .missingNumber => "A colour lacks one of its numbers".toList

/-- Whether a character only rings or moves the cursor; such characters are not shown. -/
def isSignal (c : Char) : Bool :=
  c.toNat == 7 || c.toNat == 8 || c.toNat == 11 || c.toNat == 12 || c.toNat == 13

/-- The characters that are shown of a piece. -/
def shownOf (t : Text) : Text :=
  (putEmoji 0 (replace ['\\', '['] ['['] t)).filter fun c => !isSignal c

/-- No signal is shown. -/
theorem not_isSignal_of_mem_shownOf {t : Text} {c : Char} (h : c ∈ shownOf t) :
    isSignal c = false := by
  simpa using (List.mem_filter.1 h).2

/-- The name that stands for all the ways to write a tag. -/
def commonName (name : Text) : Except LineFault Text :=
  match normalForm name with
  | .ok name => .ok name
  | .error _ => .error .missingNumber

/-- A tag that is open, and whether it has a character to set, line feeds not counted. -/
structure OpenTag where
  tag : Tag
  covers : Bool
deriving DecidableEq

/-- An open tag after some more characters have been shown. -/
def OpenTag.over (t : Text) (o : OpenTag) : OpenTag :=
  { o with covers := o.covers || t.any (· != '\n') }

/-- The tag that a closing tag closes, the last one of its name, and the ones that stay open. -/
def closed? (name : Text) : List OpenTag → Option (OpenTag × List OpenTag)
  | [] => none
  | last :: rest =>
    if name = [] ∨ name = last.tag.name then some (last, rest)
    else (closed? name rest).map fun (o, rest) => (o, last :: rest)

/-- What pieces show while some tags are open, the last one first, and the tags that set a
style. -/
def shown : (opened : List OpenTag) → List Piece → Except LineFault (Text × List OpenTag)
  | opened, [] => .ok ([], opened)
  | opened, .plain t :: pieces => do
    let (rest, styled) ← shown (opened.map (·.over (shownOf t))) pieces
    .ok (shownOf t ++ rest, styled)
  | opened, .kept t :: pieces => do
    let (rest, styled) ← shown (opened.map (·.over (shownOf t))) pieces
    .ok (shownOf t ++ rest, styled)
  | opened, .tag ⟨'/' :: name, _⟩ :: pieces => do
    let name := trim name
    let name ← if name.isEmpty then .ok [] else commonName name
    match closed? name opened with
    | none => .error .nothingToClose
    | some (o, opened) =>
      if o.tag.name.head? = some '@' then
        let parameters := o.tag.parameters.getD []
        if parameters.isEmpty ∨ isHandler parameters then shown opened pieces
        else .error .noHandler
      else
        let (rest, styled) ← shown opened pieces
        .ok (rest, o :: styled)
  | opened, .tag ⟨name, parameters⟩ :: pieces => do
    shown (⟨⟨← commonName name, parameters⟩, false⟩ :: opened) pieces

/-- Whether the style of a tag lacks a number of a colour. -/
def OpenTag.lacksNumber (o : OpenTag) : Bool :=
  match Style.ofText o.tag.style with
  | .error .missingNumber => true
  | _ => false

/-- What a line shows in a colour.  Where a line falls into parts, at line feeds and
tabulators, a style that covers nothing has no part to be set in. -/
def styled (colour line : Text) : Except LineFault Text := do
  let tagged := ['['] ++ colour ++ [']'] ++ line ++ ['[', '/'] ++ colour ++ [']']
  let (text, tags) ← shown [] (pieces 0 tagged)
  let inParts := '\n' ∈ text ∨ '\t' ∈ text
  if tags.any fun o => (o.covers ∨ ¬ inParts) ∧ o.lacksNumber then .error .missingNumber
  else .ok (withoutTabs (.at 0) text)

end Prepress.Console
