/-
# Fenced blocks

A block begins with three backticks and its tag and ends with the next three backticks.  Blanks
after the tag do not belong to its body.  A tag without a fence after it begins no block.
-/
import Prepress.Text.Case
import Prepress.Text.Search

namespace Prepress.Manuscript

open Text

/-- The mark that encloses blocks. -/
def fence : Text := "```".toList

/-- A character outside of blocks, or the body of a block. -/
inductive Piece where
  | prose (c : Char)
  | block (body : Text)
deriving DecidableEq

/-- The body of the block that a text begins with, and what follows the block. -/
def block? (tag t : Text) : Option (Text × Text) :=
  (after? (fence ++ tag) t).bind fun r => cut? fence (trimStart r)

theorem block?_length {tag t body rest : Text} (h : block? tag t = some (body, rest)) :
    rest.length < t.length := by
  obtain ⟨r, hr, hc⟩ := Option.bind_eq_some_iff.1 h
  have h1 := after?_eq_some.1 hr
  have h2 := eq_of_cut? hc
  have h3 : (trimStart r).length ≤ r.length := length_dropWhile_le isBlank r
  rw [h2] at h3
  have h4 : 0 < fence.length := by decide
  rw [h1]
  simp only [List.length_append] at h3 ⊢
  omega

/-- The pieces of a text with respect to the blocks of a tag. -/
def pieces (tag : Text) : Text → List Piece
  | [] => []
  | c :: t =>
    match _h : block? tag (c :: t) with
    | some (body, rest) => .block body :: pieces tag rest
    | none => .prose c :: pieces tag t
termination_by t => t.length
decreasing_by
  · exact block?_length _h
  · simp

/-- The bodies of the blocks of a tag. -/
def bodies (tag t : Text) : List Text :=
  (pieces tag t).filterMap fun
    | .prose _ => none
    | .block body => some body

/-- A piece with its body rendered, or replaced by a text if that fails. -/
def Piece.expand {ε : Type} (failure : Text) (render : Text → Except ε Text) : Piece → Text
  | .prose c => [c]
  | .block body =>
    match render body with
    | .ok text => text
    | .error _ => failure

/-- A text with the blocks of a tag rendered; a block that cannot be rendered is replaced by a
text. -/
def expand {ε : Type} (tag failure : Text) (render : Text → Except ε Text) (t : Text) : Text :=
  (pieces tag t).flatMap (Piece.expand failure render)

/-! ## Tags in any letter case -/

/-- Whether a text begins with a fence and a word, in any forms of its letters. -/
def opensFence (word t : Text) : Bool :=
  match after? fence t with
  | some r => (afterWord? word r).isSome
  | none => false

/-- Whether a fence and a word, in any forms of its letters, occur in a text. -/
def hasFence (word : Text) : Text → Bool
  | [] => false
  | c :: t => opensFence word (c :: t) || hasFence word t

end Prepress.Manuscript
