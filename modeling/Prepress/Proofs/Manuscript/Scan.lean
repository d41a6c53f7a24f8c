/-
# Blocks from the left

The blocks of a tag are what a pattern finds: the fence and the tag, blanks, as many as there are,
any characters, as few as possible, and a fence (`blockPattern`).  A scan finds them without a
choice (`scan`): it looks for the first fence with the tag that another fence follows, takes the
text between the two, and goes on behind them.

* `head?_ways_blockPattern` : what the pattern reads first is the block that a text begins with;
* `expand_eq_scan` : expanding the blocks of a text, substituting for the pattern and filling in what
  the scan has found are the same.
-/
import Prepress.Proofs.Manuscript.Fence
import Prepress.Proofs.Text.Pattern

namespace Prepress.Manuscript

open Text

variable {tag t : Text}

/-! ## Blocks as a pattern -/

/-- The fence and the tag, a run of blanks that is to be long, a run of any characters that is to be
short, and a fence. -/
def blockPattern (tag : Text) : List Stretch :=
  [.word (fence ++ tag), .longest isBlank, .shortest fun _ => true, .word fence]

/-- The body of a block, as the pattern reads it. -/
def readBody (reads : List Text) : Text := reads.getD 2 []

/-- The end of the pattern can be read where there is a fence. -/
theorem ways_body_eq_nil_iff :
    ways [.shortest fun _ => true, .word fence] t = [] ↔ ¬ fence <:+: t := by
  rw [← List.head?_eq_none_iff, head?_ways_shortest, Option.map_eq_none_iff,
    ← occursIn_eq_false_iff, occursIn, Option.isSome_eq_false_iff, Option.isNone_iff_eq_none]

/-- What the pattern reads first is the block that a text begins with. -/
theorem head?_ways_blockPattern (tag t : Text) :
    ∃ blanks : Text, (ways (blockPattern tag) t).head?
      = (block? tag t).map fun b => ([fence ++ tag, blanks, b.1, fence], b.2) := by
  rw [blockPattern, ways_word, block?]
  cases after? (fence ++ tag) t with
  | none => exact ⟨[], rfl⟩
  | some r =>
      refine ⟨r.takeWhile isBlank, ?_⟩
      -- giving back blanks brings no fence about, as a fence has none
      have hblanks : ways [.shortest fun _ => true, .word fence] (r.dropWhile isBlank) = [] →
          ∀ x ∈ runs isBlank r, ways [.shortest fun _ => true, .word fence] x.2 = [] := by
        intro h x hx
        rw [ways_body_eq_nil_iff] at h ⊢
        rw [← fence_infix_trimStart, trimStart, dropWhile_of_mem_runs hx]
        exact h
      dsimp only
      rw [List.head?_map, head?_ways_longest hblanks, head?_ways_shortest, Option.bind_some,
        trimStart, Option.map_map, Option.map_map]
      rfl

section Expand

variable {ε : Type} {failure : Text} {render : Text → Except ε Text}

/-- Substituting the renderings of the bodies for the pattern expands the blocks. -/
theorem substitute_blockPattern (tag t : Text) :
    substitute (blockPattern tag) (fun reads => replacement failure render (readBody reads)) t
      = expand tag failure render t := by
  fun_induction pieces tag t with
  | case1 => rw [substitute_nil, expand_nil]
  | case2 c t body rest hb ih =>
      obtain ⟨blanks, hway⟩ := head?_ways_blockPattern tag (c :: t)
      rw [hb, Option.map_some] at hway
      rw [substitute_of_head? (by simp [fence]) hway, ih, expand_of_block? hb]
      rfl
  | case3 c t hb ih =>
      obtain ⟨blanks, hway⟩ := head?_ways_blockPattern tag (c :: t)
      rw [hb, Option.map_none] at hway
      have hnone : ¬ BeginsBlock tag (c :: t) := by
        rw [BeginsBlock, hb]
        simp
      rw [substitute_cons hway, ih, expand_cons hnone]

end Expand

/-! ## The scan -/

/-- The first fence with a tag that another fence follows: the text before it, the text between the
tag and the next fence, and the text after that fence. -/
def firstBlock? (tag : Text) : Text → Option (Text × Text × Text)
  | [] => none
  | c :: t =>
    match (after? (fence ++ tag) (c :: t)).bind (cut? fence) with
    | some (inner, rest) => some ([], inner, rest)
    | none => (firstBlock? tag t).map fun b => (c :: b.1, b.2)

theorem eq_of_firstBlock? {before inner rest : Text}
    (h : firstBlock? tag t = some (before, inner, rest)) :
    t = before ++ (fence ++ tag ++ (inner ++ fence ++ rest)) := by
  induction t generalizing before with
  | nil => cases h
  | cons c t ih =>
      rw [firstBlock?] at h
      split at h
      · next inner' rest' hb =>
          obtain ⟨r, hr, hc⟩ := Option.bind_eq_some_iff.1 hb
          cases h
          rw [List.nil_append, ← eq_of_cut? hc, after?_eq_some.1 hr]
      · obtain ⟨⟨before', inner', rest'⟩, hmem, he⟩ := Option.map_eq_some_iff.1 h
        cases he
        rw [List.cons_append, ← ih hmem]

theorem firstBlock?_length {before inner rest : Text}
    (h : firstBlock? tag t = some (before, inner, rest)) : rest.length < t.length := by
  have hfence : 0 < fence.length := by decide
  rw [eq_of_firstBlock? h]
  simp only [List.length_append]
  omega

/-- The blocks of a text, each with the text before it and the text between its tag and its end, and
the text after the last one. -/
def scan (tag t : Text) : List (Text × Text) × Text :=
  match _h : firstBlock? tag t with
  | none => ([], t)
  | some (before, inner, rest) => ((before, inner) :: (scan tag rest).1, (scan tag rest).2)
termination_by t.length
decreasing_by
  all_goals exact firstBlock?_length _h

/-- Whether the blanks before a body are taken off before or after its end is looked for does not
matter, as a fence has none. -/
theorem cut?_fence_trimStart (r : Text) :
    cut? fence (trimStart r) = (cut? fence r).map fun x => (trimStart x.1, x.2) := by
  induction r with
  | nil => rfl
  | cons c r ih =>
      by_cases hc : isBlank c = true
      · have hstart : after? fence (c :: r) = none := by
          rw [after?_eq_none_iff]
          intro h
          have hfence : ∀ d ∈ fence, isBlank d = false := by decide
          have hmem : c ∈ fence := List.mem_of_head? (head?_eq_of_isPrefix h (by decide)).symm
          rw [hfence c hmem] at hc
          cases hc
        rw [trimStart, List.dropWhile_cons_of_pos hc, ← trimStart, ih, cut?, hstart, Option.map_map]
        congr 1
        funext x
        rw [Function.comp_apply, trimStart, trimStart, List.dropWhile_cons_of_pos hc]
      · have hself : ∀ s : Text, trimStart (c :: s) = c :: s := by
          intro s
          exact List.dropWhile_cons_of_neg hc
        rw [hself, cut?]
        cases after? fence (c :: r) with
        | some rest => rfl
        | none =>
            dsimp only
            rw [Option.map_map]
            congr 1
            funext x
            rw [Function.comp_apply, hself]

theorem block?_eq_map (tag t : Text) :
    block? tag t = ((after? (fence ++ tag) t).bind (cut? fence)).map fun x => (trimStart x.1, x.2) := by
  rw [block?]
  cases after? (fence ++ tag) t with
  | none => rfl
  | some r => exact cut?_fence_trimStart r

/-- No block begins before the first one that the scan finds. -/
theorem pieces_of_firstBlock? {before inner rest : Text}
    (h : firstBlock? tag t = some (before, inner, rest)) :
    pieces tag t = before.map .prose ++ .block (trimStart inner) :: pieces tag rest := by
  induction t generalizing before with
  | nil => cases h
  | cons c t ih =>
      rw [firstBlock?] at h
      split at h
      · next inner' rest' hb =>
          cases h
          have hblock : block? tag (c :: t) = some (trimStart inner, rest) := by
            rw [block?_eq_map, hb]
            rfl
          rw [pieces_of_block? hblock]
          rfl
      · next hb =>
          obtain ⟨⟨before', inner', rest'⟩, hmem, he⟩ := Option.map_eq_some_iff.1 h
          cases he
          have hnone : ¬ BeginsBlock tag (c :: t) := by
            rw [BeginsBlock, block?_eq_map, hb]
            simp
          rw [pieces_cons hnone, ih hmem]
          rfl

theorem not_hasBlock_of_firstBlock? (h : firstBlock? tag t = none) : ¬ HasBlock tag t := by
  rw [not_hasBlock_iff]
  induction t with
  | nil => exact nowhere_nil _ _
  | cons c t ih =>
      rw [firstBlock?] at h
      split at h
      · cases h
      · next hb =>
          rw [nowhere_cons, List.append_nil]
          constructor
          · rw [BeginsBlock, block?_eq_map, hb]
            simp
          · exact ih (Option.map_eq_none_iff.1 h)

theorem not_hasBlock_scan (tag t : Text) : ¬ HasBlock tag (scan tag t).2 := by
  fun_induction scan tag t with
  | case1 t h => exact not_hasBlock_of_firstBlock? h
  | case2 t before inner rest h ih => exact ih

section Rendering

variable {ε : Type}

/-- What a scan has found, with something put in the place of each block. -/
def filled (put : Text → Text) (found : List (Text × Text) × Text) : Text :=
  (found.1.flatMap fun b => b.1 ++ put (trimStart b.2)) ++ found.2

theorem expand_eq_filled (failure : Text) (render : Text → Except ε Text) (tag t : Text) :
    expand tag failure render t = filled (replacement failure render) (scan tag t) := by
  fun_induction scan tag t with
  | case1 t h => exact expand_eq_self (not_hasBlock_of_firstBlock? h)
  | case2 t before inner rest h ih =>
      rw [expand, pieces_of_firstBlock? h, List.flatMap_append, List.flatMap_cons, ← expand, ih,
        List.flatMap_map, filled, filled, List.flatMap_cons]
      simp only [List.append_assoc]
      congr 1
      exact List.flatMap_singleton' before

theorem replacement_eq (failure : Text) (render : Text → Except ε Text) (body : Text) :
    replacement failure render body = (render body).toOption.getD failure := by
  rw [replacement, Piece.expand]
  cases render body <;> rfl

/-- Expanding the blocks of a text is substituting for the pattern of blocks, and it is filling in
what the scan has found: each block gives place to the rendering of its body, or to the failure text
if there is none.  The scan knows nothing of renderings, so a block that fails changes no other one,
and all text besides the blocks is kept, also fences that no other one follows. -/
theorem expand_eq_scan (tag failure : Text) (render : Text → Except ε Text) (t : Text) :
    substitute (blockPattern tag) (fun reads => (render (readBody reads)).toOption.getD failure) t
      = expand tag failure render t ∧
    expand tag failure render t
      = filled (fun body => (render body).toOption.getD failure) (scan tag t) ∧
    ¬ HasBlock tag (scan tag t).2 := by
  have hput : replacement failure render = fun body => (render body).toOption.getD failure := by
    funext body
    exact replacement_eq failure render body
  refine ⟨?_, ?_, not_hasBlock_scan tag t⟩
  · rw [← substitute_blockPattern, hput]
  · rw [expand_eq_filled, hput]

end Rendering

end Prepress.Manuscript
