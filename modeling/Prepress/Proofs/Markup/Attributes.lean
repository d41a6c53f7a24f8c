/-
# Attributes of tags

Quotation marks cut a tag into pieces that stand in turn outside and inside of them.  What stands
inside is the value of an attribute, and what stands before it, its key, tells which
(`attributes`).  A tag that is written in such pieces (`quotedTag`) has them as its attributes, as
long as no piece has a quotation mark of its own (`attributes_quotedTag`), and blanking some of the
values changes no other piece (`blankValues_quotedTag`).
-/
import Prepress.Proofs.Markup.Tags
import Prepress.Proofs.Text.Layout

namespace Prepress.Markup

open Text

/-! ## Reading attributes -/

/-- The pieces inside of quotation marks, each with the piece before it. -/
def valuePairs : List Text → List (Text × Text)
  | key :: value :: rest => (key, value) :: valuePairs rest
  | _ => []

/-- The attributes of a tag: the values in quotation marks with their keys. -/
def attributes (g : Text) : List (Text × Text) := valuePairs (splitOn '"' g)

/-- The value of an attribute of a tag. -/
def attribute? (key g : Text) : Option Text := (attributes g).lookup key

/-! ## Blanking attributes -/

/-- The pieces of a tag with the values of some keys left blank. -/
def blankPieces (keys : List Text) : List Text → List Text
  | key :: value :: rest =>
    key :: (if keys.contains key then [] else value) :: blankPieces keys rest
  | pieces => pieces

/-- A tag with the values of some attributes left blank. -/
def blankValues (keys : List Text) (g : Text) : Text :=
  join ['"'] (blankPieces keys (splitOn '"' g))

/-- A tag without quotation marks has no value that could be blanked. -/
theorem blankValues_of_not_mem {g : Text} (h : '"' ∉ g) (keys : List Text) :
    blankValues keys g = g := by
  rw [blankValues, splitOn_last h]
  rfl

/-- Pieces whose values stand behind other keys stay as they are. -/
theorem blankPieces_eq_self {keys pieces : List Text}
    (h : ∀ pair ∈ valuePairs pieces, pair.1 ∉ keys) : blankPieces keys pieces = pieces := by
  fun_induction blankPieces keys pieces with
  | case1 key value rest ih =>
      rw [valuePairs, List.forall_mem_cons] at h
      rw [if_neg fun hk => h.1 (List.contains_iff_mem.1 hk), ih h.2]
  | case2 pieces _ => rfl

/-! ## Tags written in pieces -/

/-- A tag that is written in pieces with quotation marks between them. -/
def quotedTag (pieces : List Text) (last : Text) : Text := join ['"'] (pieces ++ [last ++ ['>']])

theorem quotedTag_nil (last : Text) : quotedTag [] last = last ++ ['>'] := rfl

theorem quotedTag_cons (p : Text) (pieces : List Text) (last : Text) :
    quotedTag (p :: pieces) last = p ++ '"' :: quotedTag pieces last := by
  rw [quotedTag, List.cons_append, join_cons _ _ (by simp), List.append_assoc]
  rfl

/-- A character that ends neither a value nor a tag. -/
def IsValueChar (c : Char) : Prop := c ∉ ['"', '>']

instance (c : Char) : Decidable (IsValueChar c) := by
  unfold IsValueChar
  infer_instance

section Pieces

variable {pieces : List Text} {last : Text} (h : ∀ p ∈ pieces, Within IsValueChar p)
  (hl : Within IsValueChar last)

include h hl

theorem splitOn_quotedTag : splitOn '"' (quotedTag pieces last) = pieces ++ [last ++ ['>']] := by
  refine splitOn_join (by simp) ?_
  intro p hp
  rcases List.mem_append.1 hp with hp | hp
  · exact (h p hp).not_mem (by decide)
  · rw [List.mem_singleton.1 hp, List.mem_append, not_or]
    exact ⟨hl.not_mem (by decide), by decide⟩

theorem attributes_quotedTag :
    attributes (quotedTag pieces last) = valuePairs (pieces ++ [last ++ ['>']]) := by
  rw [attributes, splitOn_quotedTag h hl]

theorem blankValues_quotedTag (keys : List Text) :
    blankValues keys (quotedTag pieces last)
      = join ['"'] (blankPieces keys (pieces ++ [last ++ ['>']])) := by
  rw [blankValues, splitOn_quotedTag h hl]

/-- Pieces of which the first opens a bracket and only the last closes it are a tag. -/
theorem isTag_quotedTag (hh : (join ['"'] pieces).head? = some '<') :
    IsTag (quotedTag pieces last) := by
  have hne : pieces ≠ [] := by
    rintro rfl
    simp [join] at hh
  have hopen : Within (· ≠ '>') (join ['"'] pieces) :=
    within_join (by decide) fun p hp => (h p hp).imp fun c hc he => hc (by rw [he]; decide)
  have hall : '>' ∉ join ['"'] pieces ++ ['"'] ++ last := by
    rw [List.mem_append, List.mem_append, not_or, not_or]
    exact ⟨⟨hopen.not_mem (by simp), by decide⟩, hl.not_mem (by decide)⟩
  rw [quotedTag, join_concat _ _ hne, ← List.append_assoc]
  refine isTag_concat ?_ hall
  obtain ⟨m, hm⟩ := List.head?_eq_some_iff.1 hh
  rw [hm]
  rfl

end Pieces

end Prepress.Markup
