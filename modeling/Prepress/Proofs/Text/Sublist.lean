/-
# What is taken from a text

Trimming, compacting, splitting and cutting into lines only leave characters out: what they give
is a sublist of the text they are given, and where nothing is left out in between, a part of it
in one piece.  So whatever holds of all characters of a text holds of all that is taken from it.
-/
import Prepress.Text.Lines
import Prepress.Text.Search

namespace Prepress.Text

open scoped List

/-! ## Trimming and compacting -/

theorem trimStart_isSuffix (t : Text) : trimStart t <:+ t := List.dropWhile_suffix isBlank

theorem trimEnd_isPrefix (t : Text) : trimEnd t <+: t := by
  induction t with
  | nil => exact List.nil_prefix
  | cons c t ih =>
      rw [trimEnd]
      split
      · split
        · exact List.nil_prefix
        · exact ⟨t, rfl⟩
      · exact List.cons_prefix_cons.2 ⟨rfl, ih⟩

theorem trim_isInfix (t : Text) : trim t <:+: t :=
  (trimEnd_isPrefix (trimStart t)).isInfix.trans (trimStart_isSuffix t).isInfix

theorem trim_sublist (t : Text) : trim t <+ t := (trim_isInfix t).sublist

theorem compact_sublist (t : Text) : compact t <+ t := List.filter_sublist

/-! ## Pieces and lines -/

/-- Texts are cut from a text: all are parts of it in one piece, and the first one begins it. -/
def AreCut (ls : List Text) (t : Text) : Prop :=
  (∀ l, ls.head? = some l → l <+: t) ∧ ∀ l ∈ ls, l <:+: t

theorem areCut_nil (t : Text) : AreCut [] t := by
  constructor <;> simp

/-- A line may end before any text. -/
theorem AreCut.nil_cons {ls : List Text} {t : Text} (h : AreCut ls t) (s : Text) :
    AreCut ([] :: ls) (s ++ t) := by
  constructor
  · intro l hl
    rw [← Option.some.inj hl]
    exact List.nil_prefix
  · intro l hl
    rcases List.mem_cons.1 hl with hl | hl
    · rw [hl]
      exact List.nil_infix
    · exact (h.2 l hl).trans (List.suffix_append s t).isInfix

/-- A character may be put before the text and before the first line. -/
theorem AreCut.consLine {ls : List Text} {t : Text} (h : AreCut ls t) (c : Char) :
    AreCut (consLine c ls) (c :: t) := by
  cases ls with
  | nil =>
      have hc : [c] <+: c :: t := List.prefix_append [c] t
      refine ⟨fun l hl => ?_, fun l hl => ?_⟩
      · rw [← Option.some.inj hl]
        exact hc
      · rw [List.mem_singleton.1 hl]
        exact hc.isInfix
  | cons k ks =>
      have hk : c :: k <+: c :: t := List.cons_prefix_cons.2 ⟨rfl, h.1 k rfl⟩
      refine ⟨fun l hl => ?_, fun l hl => ?_⟩
      · rw [← Option.some.inj hl]
        exact hk
      · rcases List.mem_cons.1 hl with hl | hl
        · rw [hl]
          exact hk.isInfix
        · exact (h.2 l (List.mem_cons_of_mem k hl)).trans (List.suffix_cons c t).isInfix

theorem areCut_splitOn (mark : Char) (t : Text) : AreCut (splitOn mark t) t := by
  induction t with
  | nil => exact (areCut_nil []).nil_cons []
  | cons c t ih =>
      rw [splitOn]
      split
      · exact ih.nil_cons [c]
      · exact ih.consLine c

theorem areCut_lines (t : Text) : AreCut (lines t) t := by
  fun_induction lines t with
  | case1 => exact areCut_nil []
  | case2 t ih => exact ih.nil_cons ['\r', '\n']
  | case3 c t _ _ ih => exact ih.nil_cons [c]
  | case4 c t _ _ ih => exact ih.consLine c

theorem isInfix_of_mem_splitOn {mark : Char} {t l : Text} (h : l ∈ splitOn mark t) : l <:+: t :=
  (areCut_splitOn mark t).2 l h

theorem isInfix_of_mem_lines {t l : Text} (h : l ∈ lines t) : l <:+: t := (areCut_lines t).2 l h

theorem isInfix_of_mem_contentLines {t l : Text} (h : l ∈ contentLines t) : l <:+: t := by
  obtain ⟨k, hk, he⟩ := List.mem_filterMap.1 h
  split at he
  · simp at he
  · rw [← Option.some.inj he]
    exact (trim_isInfix k).trans (isInfix_of_mem_lines hk)

/-- A text is a part of one of some lines, in one piece. -/
def IsPartOf (ls : List Text) (t : Text) : Prop := ∃ l ∈ ls, t <:+: l

theorem sublist_of_mem_splitOn {mark : Char} {t l : Text} (h : l ∈ splitOn mark t) : l <+ t :=
  (isInfix_of_mem_splitOn h).sublist

theorem sublist_of_mem_lines {t l : Text} (h : l ∈ lines t) : l <+ t :=
  (isInfix_of_mem_lines h).sublist

/-! ## Before and after a mark -/

/-- What follows a mark is the end of the text. -/
theorem suffix_of_after? {lead t r : Text} (h : after? lead t = some r) : r <:+ t :=
  ⟨lead, (after?_eq_some.1 h).symm⟩

/-- What stands before the first occurrence of a mark begins the text. -/
theorem prefix_of_cut? {mark t before r : Text} (h : cut? mark t = some (before, r)) :
    before <+: t := by
  rw [eq_of_cut? h, List.append_assoc]
  exact List.prefix_append before _

theorem suffix_of_cut? {mark t before r : Text} (h : cut? mark t = some (before, r)) :
    r <:+ t := by
  rw [eq_of_cut? h]
  exact List.suffix_append _ r

end Prepress.Text
