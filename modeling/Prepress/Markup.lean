/-
# Character references in markup

In markup, five characters have a meaning of their own.  In character data and in attribute
values they are written as references.
-/
import Prepress.Text.Blank

namespace Prepress.Markup

/-- A character as character data. -/
def escapeChar (c : Char) : Text :=
  if c = '&' then "&amp;".toList
  else if c = '<' then "&lt;".toList
  else if c = '>' then "&gt;".toList
  else if c = '"' then "&quot;".toList
  else if c.toNat = 0x27 then "&#x27;".toList
  else [c]

/-- A text as character data, also fit for an attribute value. -/
def escape (t : Text) : Text := t.flatMap escapeChar

theorem escape_append (a b : Text) : escape (a ++ b) = escape a ++ escape b := by
  simp [escape]

end Prepress.Markup
