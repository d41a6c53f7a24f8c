/-
# Paths

A path is a root, which a relative path lacks, and the names on the way.  Empty names and
single points between slashes do not count.  Two points are a step back, and a path without
steps back that could be taken is a *location*.
-/
import Prepress.Number.Total
import Prepress.Text.Lines

namespace Prepress

open Text

/-! ## Names -/

/-- The number of bytes of a text in the encoding of variable length. -/
def Text.byteLength (t : Text) : Nat := total (t.map fun c => c.utf8Size)

/-- Whether a text has a null character in it, which no name has. -/
def Text.hasNull (t : Text) : Bool := t.any fun c => c.toNat == 0

/-- The greatest number of bytes of a name. -/
def longestName : Nat := 255

/-- The greatest number of bytes of a written path. -/
def longestPath : Nat := 4095

/-! ## Paths -/

/-- A path: no root, one slash or two slashes, and the names on the way. -/
structure Path where
  root : Text
  parts : List Text
deriving DecidableEq

namespace Path

/-- The name that stays in a folder. -/
def stay : Text := ['.']

/-- The name that steps back from a folder. -/
def back : Text := ['.', '.']

/-- The root of a written path; three slashes or more count as one. -/
def rootOf : Text → Text
  | '/' :: '/' :: '/' :: _ => ['/']
  | '/' :: '/' :: _ => ['/', '/']
  | '/' :: _ => ['/']
  | _ => []

/-- The names of a written path. -/
def namesOf (t : Text) : List Text := (splitOn '/' t).filter (· ≠ [])

/-- The path that a text writes. -/
def ofText (t : Text) : Path := ⟨rootOf t, (namesOf t).filter (· ≠ stay)⟩

/-- The path as it is written; a point for the empty path. -/
def text (p : Path) : Text :=
  if p.root = [] ∧ p.parts = [] then stay else p.root ++ join ['/'] p.parts

/-- The folder that a written path leads into: what stands before its last slash, with all its
names. -/
def folderOf (t : Text) : Path :=
  let folder := (t.reverse.dropWhile (· ≠ '/')).reverse
  ⟨rootOf folder, namesOf folder⟩

/-- The path without its last name. -/
def parent (p : Path) : Path := { p with parts := p.parts.dropLast }

/-! ## Locations -/

/-- The location of the folder above.  There is nothing above the root. -/
def above (p : Path) : Path :=
  match p.parts.getLast? with
  | none => if p.root = [] then { p with parts := [back] } else p
  | some last => if last = back then { p with parts := p.parts ++ [back] } else p.parent

/-- The location that a name leads to from a folder. -/
def enter (p : Path) (name : Text) : Path :=
  if name = stay then p
  else if name = back then p.above
  else { p with parts := p.parts ++ [name] }

/-- The location that a path leads to. -/
def resolved (p : Path) : Path := p.parts.foldl enter ⟨p.root, []⟩

/-- The path with an ending added to its last name. -/
def withEnding (p : Path) (ending : Text) : Path :=
  { p with parts := p.parts.dropLast ++ [p.parts.getLastD [] ++ ending] }

/-- Whether a path leads through another one. -/
def isBelow (p folder : Path) : Bool :=
  p.root == folder.root && folder.parts.length < p.parts.length
    && p.parts.take folder.parts.length == folder.parts

end Path

end Prepress
