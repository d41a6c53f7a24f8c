/-
# Emoji codes

The name of an emoji between colons stands for the emoji.  The name may end in a hyphen and the
word `text` or `emoji`, which asks for one of the two ways to show it.  A name that no emoji has
is shown with its colons.
-/
import Prepress.Console.EmojiTable
import Prepress.Text.Case
import Prepress.Text.Digit
import Prepress.Text.Lines
import Prepress.Text.Search

namespace Prepress.Console

open Text

/-! ## Names -/

/-- The emoji with a name. -/
def emoji? (name : Text) : Option Text :=
  (emojiLines.flatMap fun line => splitOn ' ' line.toList).findSome? fun entry =>
    (after? (name ++ ['=']) entry).map fun codes =>
      (splitOn '-' codes).map fun code => Char.ofNat (hexToNat code)

/-! ## Codes -/

/-- The name of an emoji and what is shown behind the emoji. -/
structure EmojiCode where
  name : Text
  ending : Text

/-- The code that goes on after its colon and the characters `passed`, the last one first, and
the number of its characters. -/
def codeAfter? (passed : Text) : Text → Option (EmojiCode × Nat)
  | [] => none
  | c :: t =>
    if startsWith "-emoji:".toList (c :: t) then
      some (⟨passed.reverse, [Char.ofNat 0xFE0F]⟩, passed.length + 8)
    else if startsWith "-text:".toList (c :: t) then
      some (⟨passed.reverse, [Char.ofNat 0xFE0E]⟩, passed.length + 7)
    else if c = ':' then some (⟨passed.reverse, []⟩, passed.length + 2)
    else if isBlank c then none
    else codeAfter? (c :: passed) t

/-- The emoji of a code. -/
def EmojiCode.emoji? (code : EmojiCode) : Option Text :=
  (Console.emoji? (lower code.name)).map (· ++ code.ending)

/-- A text with emoji in the place of their codes after its next `skip` characters. -/
def putEmoji : (skip : Nat) → Text → Text
  | _, [] => []
  | skip + 1, _ :: t => putEmoji skip t
  | 0, c :: t =>
    match if c = ':' then codeAfter? [] t else none with
    | some (code, length) =>
      (code.emoji?).getD ((c :: t).take length) ++ putEmoji (length - 1) t
    | none => c :: putEmoji 0 t

end Prepress.Console
