/-
# Detecting signature blocks

Whether a manuscript has signature blocks is read off its raw text, by the fence and the tag alone.
Its fields are those of the complete blocks of the cleaned text.  The test misses none of them: no
spelling of the surface and no normalized line end brings the fence and the tag together, so where
a block is found in the cleaned text, the raw text has its opening (`infix_of_infix_cleaned`,
`hasFence_of_infix`).

* `hasSignatureBlocks_of_fieldNames` : a manuscript with form fields has signature blocks.
-/
import Prepress.Manuscript.Preparation
import Prepress.Proofs.Manuscript.Fence
import Prepress.Proofs.Surface
import Prepress.Proofs.Text.Wall

namespace Prepress.Manuscript

open Text

/-! ## Openings in any letter case -/

/-- A word of small letters is found where it is written as it is. -/
theorem isSome_afterWord?_of_isPrefix {word t : Text} (hw : ∀ c ∈ word, c.toLower = c)
    (h : word <+: t) : (afterWord? word t).isSome = true := by
  induction word generalizing t with
  | nil => rfl
  | cons l word ih =>
      cases t with
      | nil => exact absurd (List.prefix_nil.1 h) (List.cons_ne_nil l word)
      | cons c t =>
          rw [List.cons_prefix_cons] at h
          have hform : isFormOf l c = true := by
            rw [isFormOf, ← h.1, hw l (by simp), beq_self_eq_true, Bool.true_or, Bool.true_or,
              Bool.true_or]
          rw [afterWord?, if_pos hform]
          exact ih (fun d hd => hw d (List.mem_cons_of_mem l hd)) h.2

theorem opensFence_of_isPrefix {word t : Text} (hw : ∀ c ∈ word, c.toLower = c)
    (h : fence ++ word <+: t) : opensFence word t = true := by
  obtain ⟨r, rfl⟩ := h
  rw [opensFence, List.append_assoc, after?_append]
  exact isSome_afterWord?_of_isPrefix hw (List.prefix_append word r)

/-- A fence and a word of small letters are found wherever they are written as they are. -/
theorem hasFence_of_infix {word t : Text} (hw : ∀ c ∈ word, c.toLower = c)
    (h : fence ++ word <:+: t) : hasFence word t = true := by
  induction t with
  | nil => exact absurd (List.infix_nil.1 h) (by simp [fence])
  | cons c t ih =>
      rw [hasFence, Bool.or_eq_true]
      rcases List.infix_cons_iff.1 h with h | h
      · exact Or.inl (opensFence_of_isPrefix hw h)
      · exact Or.inr (ih h)

/-! ## Cleaned texts -/

/-- Cleaning a text brings no mark about that begins with a backtick, has no line end and has none
of the characters that spellings begin with. -/
theorem infix_of_infix_cleaned {mark : Text} (hhead : mark.head? = some '`')
    (hm : ∀ c ∈ mark, c ∉ Surface.spellingHeads) (hr : '\r' ∉ mark) (hn : '\n' ∉ mark) {t : Text}
    (h : mark <:+: cleaned t) : mark <:+: t := by
  rw [cleaned, infix_normalizeNewlines_iff hr hn] at h
  exact Surface.infix_of_infix_sanitize hhead (by decide) hm h

/-- A text with a block of a tag has the fence and the tag in it. -/
theorem infix_of_bodies_ne_nil {tag t : Text} (h : bodies tag t ≠ []) : fence ++ tag <:+: t := by
  by_contra hnone
  have hblock : ¬ HasBlock tag t := by
    rintro ⟨before, body, after, rfl⟩
    refine hnone ⟨before, body ++ fence ++ after, ?_⟩
    simp only [List.append_assoc]
  have hpieces := pieces_append_of_nowhere (not_hasBlock_iff.1 hblock)
  rw [List.append_nil, pieces_nil, List.append_nil] at hpieces
  refine h ?_
  rw [bodies, hpieces, List.filterMap_map, List.filterMap_eq_nil_iff]
  intro c _
  rfl

/-- A manuscript whose cleaned text has a signature block is found to have one. -/
theorem hasSignatureBlocks_of_bodies {t : Text} (h : bodies signaturesTag (cleaned t) ≠ []) :
    hasSignatureBlocks t = true := by
  have hopening : fence ++ signaturesTag <:+: t :=
    infix_of_infix_cleaned (by decide) (by decide) (by decide) (by decide)
      (infix_of_bodies_ne_nil h)
  exact hasFence_of_infix (by decide) hopening

/-! ## Fields -/

/-- A manuscript with form fields is found to have signature blocks, whatever the options. -/
theorem hasSignatureBlocks_of_fieldNames (options : Signature.Options) {t : Text}
    (h : fieldNames options t ≠ []) : hasSignatureBlocks t = true := by
  refine hasSignatureBlocks_of_bodies ?_
  intro hnone
  rw [fieldNames, hnone] at h
  exact h rfl

/-- A manuscript with symbols that are spelled out, and with line ends of all kinds. -/
def symbolsAndBlock : Text :=
  "→≠```signatures\r## Sign–off\r\n|F|A…|\r|–-|--|\n|N|…|```".toList

theorem hasSignatureBlocks_of_fieldNames_symbols :
    fieldNames Signature.Options.standard symbolsAndBlock ≠ [] ∧
      hasSignatureBlocks symbolsAndBlock = true := by
  have hfields : fieldNames Signature.Options.standard symbolsAndBlock
      = ["Sign-off_A..._N".toList] := by
    decide +kernel
  have hne : fieldNames Signature.Options.standard symbolsAndBlock ≠ [] := by
    rw [hfields]
    exact List.cons_ne_nil _ _
  exact ⟨hne, hasSignatureBlocks_of_fieldNames _ hne⟩

end Prepress.Manuscript
