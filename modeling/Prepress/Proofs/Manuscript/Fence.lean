/-
# Blocks in their surroundings

Where blocks begin, and what becomes of the text around them.

* `beginsBlock_iff` : a text begins with a block when it begins with the fence and the tag and has
  another fence after them;
* `expand_append_of_nowhere` : a text in which no block begins is kept;
* `expand_block` : a block on lines of its own is replaced by its rendering;
* `expand_eq_self` : a text without a block stays as it is.
-/
import Prepress.Manuscript.Fence
import Prepress.Proofs.Text.Occurrence
import Prepress.Proofs.Text.Sublist
import Prepress.Proofs.Text.Within

namespace Prepress.Manuscript

open Text

/-! ## The beginning of a block -/

/-- A text begins with a block of a tag. -/
def BeginsBlock (tag t : Text) : Prop := (block? tag t).isSome = true

/-- Somewhere in a text stands a block of a tag. -/
def HasBlock (tag t : Text) : Prop :=
  ∃ before body after, t = before ++ (fence ++ tag ++ body ++ fence) ++ after

variable {tag t : Text}

/-- Leading blanks hold no fence. -/
theorem fence_infix_trimStart {r : Text} : fence <:+: trimStart r ↔ fence <:+: r := by
  induction r with
  | nil => rfl
  | cons c r ih =>
      rw [trimStart]
      by_cases hc : isBlank c = true
      · rw [List.dropWhile_cons_of_pos hc]
        show fence <:+: trimStart r ↔ _
        rw [ih, List.infix_cons_iff]
        constructor
        · exact Or.inr
        · rintro (h | h)
          · rw [← (List.cons_prefix_cons.1 h).1] at hc
            exact absurd hc (by decide)
          · exact h
      · rw [List.dropWhile_cons_of_neg hc]

/-- A block begins with the fence and the tag, and another fence comes after them. -/
theorem beginsBlock_iff : BeginsBlock tag t ↔ ∃ r, t = fence ++ tag ++ r ∧ fence <:+: r := by
  rw [BeginsBlock, block?, Option.isSome_bind, Option.any_eq_true]
  constructor
  · rintro ⟨r, hr, hc⟩
    exact ⟨r, after?_eq_some.1 hr, fence_infix_trimStart.1 (occursIn_iff.1 hc)⟩
  · rintro ⟨r, hr, hc⟩
    exact ⟨r, after?_eq_some.2 hr, occursIn_iff.2 (fence_infix_trimStart.2 hc)⟩

theorem BeginsBlock.fence_isPrefix (h : BeginsBlock tag t) : fence <+: t := by
  obtain ⟨r, rfl, -⟩ := beginsBlock_iff.1 h
  rw [List.append_assoc]
  exact List.prefix_append fence _

/-- The empty text begins no block. -/
theorem not_beginsBlock_nil : ¬ BeginsBlock tag [] := by
  intro h
  exact absurd (List.prefix_nil.1 h.fence_isPrefix) (by decide)

/-- A text without a block is one in which no block begins. -/
theorem not_hasBlock_iff : ¬ HasBlock tag t ↔ Nowhere (BeginsBlock tag) t [] := by
  constructor
  · intro h u v huv _ hb
    rw [List.append_nil] at hb
    obtain ⟨r, hr, body, after, ha⟩ := beginsBlock_iff.1 hb
    refine h ⟨u, body, after, ?_⟩
    rw [huv, hr, ← ha]
    simp only [List.append_assoc]
  · rintro h ⟨before, body, after, rfl⟩
    refine h before (fence ++ tag ++ body ++ fence ++ after) (by rw [List.append_assoc]) ?_ ?_
    · simp [fence]
    · rw [List.append_nil, beginsBlock_iff]
      refine ⟨body ++ fence ++ after, by simp only [List.append_assoc], body, after, rfl⟩

/-- A text without a fence has no block. -/
theorem not_hasBlock_of_occursIn (h : occursIn fence t = false) : ¬ HasBlock tag t := by
  rintro ⟨before, body, after, rfl⟩
  rw [occursIn_eq_false_iff] at h
  refine h ⟨before ++ (fence ++ tag ++ body), after, ?_⟩
  simp only [List.append_assoc]

/-- A block on lines of its own ends with the first fence after it; blanks before its body are
left out. -/
theorem block?_lines (tag : Text) {body : Text} (hb : ¬ fence <:+: body) (after : Text) :
    block? tag (fence ++ tag ++ '\n' :: (body ++ '\n' :: (fence ++ after)))
      = some (trimStart (body ++ ['\n']), after) := by
  have htrim : trimStart ('\n' :: (body ++ '\n' :: (fence ++ after)))
      = trimStart (body ++ ['\n']) ++ (fence ++ after) := by
    show trimStart (body ++ '\n' :: (fence ++ after)) = _
    rw [List.append_cons]
    exact dropWhile_append_cons (by decide) (body ++ ['\n']) ("``".toList ++ after)
  rw [block?, after?_append, Option.bind_some, htrim, cut?_eq_some_iff (by decide)]
  refine ⟨by rw [List.append_assoc], ?_⟩
  have hn := nowhere_append_singleton (c := '\n') (by decide) hb (fence ++ after)
  obtain ⟨blanks, hs⟩ := trimStart_isSuffix (body ++ ['\n'])
  rw [← hs, nowhere_append] at hn
  exact hn.2

/-- A block consists of the fence and the tag, blanks, its body and another fence. -/
theorem eq_of_block? {body rest : Text} (h : block? tag t = some (body, rest)) :
    ∃ blanks, Within (isBlank · = true) blanks ∧
      t = fence ++ tag ++ (blanks ++ body ++ fence) ++ rest := by
  obtain ⟨r, hr, hc⟩ := Option.bind_eq_some_iff.1 h
  have hsplit : r.takeWhile isBlank ++ trimStart r = r := List.takeWhile_append_dropWhile
  rw [eq_of_cut? hc] at hsplit
  refine ⟨r.takeWhile isBlank, List.all_eq_true.1 List.all_takeWhile, ?_⟩
  calc t = fence ++ tag ++ r := after?_eq_some.1 hr
    _ = fence ++ tag ++ (r.takeWhile isBlank ++ (body ++ fence ++ rest)) := by rw [hsplit]
    _ = _ := by simp only [List.append_assoc]

/-! ## The pieces of a text -/

theorem pieces_nil : pieces tag [] = [] := by
  rw [pieces]

theorem pieces_cons {c : Char} (h : ¬ BeginsBlock tag (c :: t)) :
    pieces tag (c :: t) = .prose c :: pieces tag t := by
  rw [pieces]
  split
  · next hb => exact absurd (by rw [BeginsBlock, hb]; rfl) h
  · rfl

theorem pieces_of_block? {body rest : Text} (h : block? tag t = some (body, rest)) :
    pieces tag t = .block body :: pieces tag rest := by
  cases t with
  | nil =>
      have hb : BeginsBlock tag [] := by
        rw [BeginsBlock, h]
        rfl
      exact absurd hb not_beginsBlock_nil
  | cons c t =>
      rw [pieces]
      split
      · next hb =>
          rw [h, Option.some.injEq, Prod.mk.injEq] at hb
          rw [hb.1, hb.2]
      · next hb => rw [h] at hb; simp at hb

/-- What stands before the first block is prose. -/
theorem pieces_append_of_nowhere {a b : Text} (h : Nowhere (BeginsBlock tag) a b) :
    pieces tag (a ++ b) = a.map .prose ++ pieces tag b := by
  induction a with
  | nil => rfl
  | cons c a ih =>
      rw [nowhere_cons] at h
      rw [List.cons_append, pieces_cons h.1, ih h.2, List.map_cons, List.cons_append]

/-- Prose is taken from the text, character by character. -/
theorem mem_of_prose_mem_pieces {c : Char} (h : Piece.prose c ∈ pieces tag t) : c ∈ t := by
  fun_induction pieces tag t with
  | case1 => simp at h
  | case2 d t body rest hb ih =>
      simp only [List.mem_cons, reduceCtorEq, false_or] at h
      obtain ⟨r, hr, hc⟩ := Option.bind_eq_some_iff.1 hb
      have hrest := ((suffix_of_cut? hc).trans (trimStart_isSuffix r)).trans (suffix_of_after? hr)
      exact hrest.mem (ih h)
  | case3 d t _ ih =>
      rcases List.mem_cons.1 h with h | h
      · rw [Piece.prose.inj h]
        simp
      · exact List.mem_cons_of_mem d (ih h)

/-- The body of a block is a part of the text. -/
theorem infix_of_block_mem_pieces {body : Text} (h : Piece.block body ∈ pieces tag t) :
    body <:+: t := by
  fun_induction pieces tag t with
  | case1 => simp at h
  | case2 d t b rest hb ih =>
      obtain ⟨r, hr, hc⟩ := Option.bind_eq_some_iff.1 hb
      have hs : trimStart r <:+ d :: t := (trimStart_isSuffix r).trans (suffix_of_after? hr)
      rcases List.mem_cons.1 h with h | h
      · rw [Piece.block.inj h]
        exact (prefix_of_cut? hc).isInfix.trans hs.isInfix
      · exact (ih h).trans ((suffix_of_cut? hc).trans hs).isInfix
  | case3 d t _ ih =>
      simp only [List.mem_cons, reduceCtorEq, false_or] at h
      exact (ih h).trans (List.suffix_cons d t).isInfix

/-! ## Rendering the blocks -/

section Expand

variable {ε : Type} {failure : Text} {render : Text → Except ε Text}

/-- What the rendering of a block puts in its place. -/
def replacement (failure : Text) (render : Text → Except ε Text) (body : Text) : Text :=
  (Piece.block body).expand failure render

theorem expand_nil : expand tag failure render [] = [] := by
  rw [expand, pieces_nil]
  rfl

/-- A text in which no block begins is kept. -/
theorem expand_append_of_nowhere {a b : Text} (h : Nowhere (BeginsBlock tag) a b) :
    expand tag failure render (a ++ b) = a ++ expand tag failure render b := by
  rw [expand, pieces_append_of_nowhere h, List.flatMap_append, List.flatMap_map]
  congr 1
  exact List.flatMap_singleton' a

theorem expand_cons {c : Char} (h : ¬ BeginsBlock tag (c :: t)) :
    expand tag failure render (c :: t) = c :: expand tag failure render t :=
  expand_append_of_nowhere (a := [c]) (nowhere_cons.2 ⟨h, nowhere_nil _ _⟩)

theorem expand_of_block? {body rest : Text} (h : block? tag t = some (body, rest)) :
    expand tag failure render t
      = replacement failure render body ++ expand tag failure render rest := by
  rw [expand, pieces_of_block? h, List.flatMap_cons]
  rfl

/-- A block on lines of its own is replaced by its rendering. -/
theorem expand_block {body : Text} (hb : ¬ fence <:+: body) (after : Text) :
    expand tag failure render (fence ++ tag ++ '\n' :: (body ++ '\n' :: (fence ++ after)))
      = replacement failure render (trimStart (body ++ ['\n']))
        ++ expand tag failure render after :=
  expand_of_block? (block?_lines tag hb after)

/-- A text without a block stays as it is. -/
theorem expand_eq_self (h : ¬ HasBlock tag t) : expand tag failure render t = t := by
  have hkept : expand tag failure render (t ++ []) = t ++ expand tag failure render [] :=
    expand_append_of_nowhere (not_hasBlock_iff.1 h)
  rwa [List.append_nil, expand_nil, List.append_nil] at hkept

/-- A text stays within a class of characters if what takes the place of its blocks does. -/
theorem within_expand {P : Char → Prop} (ht : Within P t)
    (hr : ∀ body, Within P body → Within P (replacement failure render body)) :
    Within P (expand tag failure render t) := by
  refine within_flatMap ?_
  intro piece hp
  cases piece with
  | prose c =>
      intro d hd
      rw [Piece.expand, List.mem_singleton] at hd
      rw [hd]
      exact ht c (mem_of_prose_mem_pieces hp)
  | block body => exact hr body (ht.sublist (infix_of_block_mem_pieces hp).sublist)

end Expand

end Prepress.Manuscript
