/-
# A listing of fields

The fields of a manuscript are listed one on a line, or as one object in a notation for data.
-/
import Prepress.Text.Lines
import Prepress.Text.Numeral

namespace Prepress.Command

open Text

/-- What there is to know about the fields of a file. -/
structure Listing where
  file : Text
  hasBlocks : Bool
  fields : List Text
  duplicates : List Text

/-- A character of a quoted string. -/
def dataChar (c : Char) : Text :=
  if c = '"' then ['\\', '"']
  else if c = '\\' then ['\\', '\\']
  else if c = '\n' then ['\\', 'n']
  else if c = '\r' then ['\\', 'r']
  else if c = '\t' then ['\\', 't']
  else if c.toNat = 8 then ['\\', 'b']
  else if c.toNat = 12 then ['\\', 'f']
  else if c.toNat < 32 then ['\\', 'u'] ++ hexPadded 4 c.toNat
  else [c]

/-- A quoted string. -/
def dataString (t : Text) : Text := '"' :: t.flatMap dataChar ++ ['"']

/-- Parts on lines of their own between brackets, indented by so many spaces; brackets only if
there are none. -/
def bracketed (left right : Char) (indent : Nat) (parts : List Text) : Text :=
  if parts.isEmpty then [left, right]
  else
    let spaces := List.replicate indent ' '
    [left, '\n'] ++ join [',', '\n'] (parts.map fun p => spaces ++ [' ', ' '] ++ p)
      ++ ['\n'] ++ spaces ++ [right]

/-- A member of an object. -/
def member (name : String) (value : Text) : Text := dataString name.toList ++ [':', ' '] ++ value

/-- A list of strings in an object. -/
def stringList (ts : List Text) : Text := bracketed '[' ']' 2 (ts.map dataString)

/-- The listing as an object. -/
def Listing.object (l : Listing) : Text :=
  bracketed (Char.ofNat 0x7B) (Char.ofNat 0x7D) 0
    [member "file" (dataString l.file),
      member "has_signature_blocks" (if l.hasBlocks then "true" else "false").toList,
      member "fields" (stringList l.fields), member "duplicates" (stringList l.duplicates)]

/-- The fields of a listing, one on a line. -/
def Listing.plain (l : Listing) : Text := l.fields.flatMap fun f => f ++ ['\n']

end Prepress.Command
