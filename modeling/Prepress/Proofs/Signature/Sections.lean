/-
# Sections one after the other

A line that divides sections ends the section before it and begins the section after it, whatever
the two hold.  So the sections of two texts with such a line between them are those of the first
text and then those of the second (`readBlock_append_break`).
-/
import Prepress.Proofs.Text.Lines
import Prepress.Proofs.Text.Newlines
import Prepress.Proofs.Text.Within
import Prepress.Signature.Reading

namespace Prepress.Signature

open Text

/-! ## Groups of lines -/

theorem groupLines_ne_nil (ls : List Text) : groupLines ls ≠ [] := by
  cases ls with
  | nil => simp [groupLines]
  | cons l ls =>
      unfold groupLines
      split
      · simp
      · split <;> simp

/-- A line that divides no sections is put to the first group after it. -/
theorem groupLines_cons {l : Text} (hl : isSectionBreak l = false) {ls g : List Text}
    {gs : List (List Text)} (h : groupLines ls = g :: gs) :
    groupLines (l :: ls) = (l :: g) :: gs := by
  rw [groupLines, hl, if_neg (by simp), h]

/-- A line that divides sections ends the groups before it and begins the groups after it. -/
theorem groupLines_append {l : Text} (hl : isSectionBreak l = true) (ls ks : List Text) :
    groupLines (ls ++ l :: ks) = groupLines ls ++ groupLines ks := by
  induction ls with
  | nil =>
      show groupLines (l :: ks) = [] :: groupLines ks
      rw [groupLines, if_pos hl]
  | cons k ls ih =>
      rw [List.cons_append]
      by_cases hk : isSectionBreak k = true
      · rw [groupLines, groupLines, if_pos hk, if_pos hk, ih, List.cons_append]
      · rw [Bool.not_eq_true] at hk
        obtain ⟨g, gs, hg⟩ := List.exists_cons_of_ne_nil (groupLines_ne_nil ls)
        rw [hg, List.cons_append] at ih
        rw [groupLines_cons hk hg, groupLines_cons hk ih, List.cons_append]

/-- A last line that divides no sections is put to the last group. -/
theorem groupLines_concat {l : Text} (hl : isSectionBreak l = false) (ls : List Text) :
    ∃ gs g, groupLines ls = gs ++ [g] ∧ groupLines (ls ++ [l]) = gs ++ [g ++ [l]] := by
  induction ls with
  | nil => exact ⟨[], [], rfl, groupLines_cons hl rfl⟩
  | cons k ls ih =>
      obtain ⟨gs, g, hls, hconcat⟩ := ih
      rw [List.cons_append]
      by_cases hk : isSectionBreak k = true
      · refine ⟨[] :: gs, g, ?_, ?_⟩
        · rw [groupLines, if_pos hk, hls, List.cons_append]
        · rw [groupLines, if_pos hk, hconcat, List.cons_append]
      · rw [Bool.not_eq_true] at hk
        cases gs with
        | nil => exact ⟨[], k :: g, groupLines_cons hk hls, groupLines_cons hk hconcat⟩
        | cons f gs => exact ⟨(k :: f) :: gs, g, groupLines_cons hk hls, groupLines_cons hk hconcat⟩

/-! ## Sections of lines -/

/-- The sections that some lines hold. -/
def sectionsOf (ls : List Text) : List Section :=
  ((groupLines ls).map (join ['\n'])).filterMap Section.read?

theorem readBlock_eq (text : Text) :
    readBlock text = sectionsOf (splitOn '\n' (normalizeNewlines text)) :=
  rfl

theorem sectionsOf_append {l : Text} (hl : isSectionBreak l = true) (ls ks : List Text) :
    sectionsOf (ls ++ l :: ks) = sectionsOf ls ++ sectionsOf ks := by
  unfold sectionsOf
  rw [groupLines_append hl, List.map_append, List.filterMap_append]

/-- An empty line at the end of a section does not change it. -/
theorem read?_join_concat (g : List Text) :
    Section.read? (join ['\n'] (g ++ [[]])) = Section.read? (join ['\n'] g) := by
  by_cases hg : g = []
  · rw [hg]
    rfl
  · unfold Section.read?
    rw [join_concat _ _ hg, List.append_nil, contentLines_concat]

theorem sectionsOf_concat (ls : List Text) : sectionsOf (ls ++ [[]]) = sectionsOf ls := by
  have hempty : isSectionBreak [] = false := rfl
  obtain ⟨gs, g, hls, hconcat⟩ := groupLines_concat hempty ls
  have hlast : (([g ++ [[]]].map (join ['\n'])).filterMap Section.read?)
      = ([g].map (join ['\n'])).filterMap Section.read? := by
    show [join ['\n'] (g ++ [[]])].filterMap Section.read?
      = [join ['\n'] g].filterMap Section.read?
    rw [List.filterMap_cons, List.filterMap_cons, read?_join_concat]
  unfold sectionsOf
  rw [hls, hconcat, List.map_append, List.map_append, List.filterMap_append,
    List.filterMap_append, hlast]

/-! ## Blocks -/

/-- The sections of two texts with a line of three hyphens between them are those of the first text
and then those of the second, whatever the texts hold and however their lines end. -/
theorem readBlock_append_break (a b : Text) :
    readBlock (a ++ "\n---\n".toList ++ b) = readBlock a ++ readBlock b := by
  have hbreak : isSectionBreak "---".toList = true := by decide
  have hline : '\n' ∉ "---".toList := by decide
  obtain ⟨s, hs, ha⟩ := normalizeNewlines_append_line a ("---\n".toList ++ b)
  have hwhole : normalizeNewlines (a ++ "\n---\n".toList ++ b)
      = s ++ '\n' :: ("---".toList ++ '\n' :: normalizeNewlines b) := by
    have hrest : normalizeNewlines ("---\n".toList ++ b)
        = "---".toList ++ '\n' :: normalizeNewlines b := by
      rw [normalizeNewlines_append_of_not_mem (by decide)]
      rfl
    rw [List.append_assoc, ← hrest, ← hs]
    rfl
  -- the line feed of the seam may be the end of a line end that the first text begins
  have hbefore : readBlock a = sectionsOf (splitOn '\n' s) := by
    rw [readBlock_eq]
    rcases ha with ha | ha
    · rw [ha]
    · rw [ha, splitOn_append_cons]
      exact sectionsOf_concat _
  calc readBlock (a ++ "\n---\n".toList ++ b)
      = sectionsOf (splitOn '\n' s ++ "---".toList :: splitOn '\n' (normalizeNewlines b)) := by
        rw [readBlock_eq, hwhole, splitOn_append_cons, splitOn_line hline]
    _ = sectionsOf (splitOn '\n' s) ++ sectionsOf (splitOn '\n' (normalizeNewlines b)) :=
        sectionsOf_append hbreak _ _
    _ = readBlock a ++ readBlock b := by
        rw [hbefore, readBlock_eq b]

end Prepress.Signature
