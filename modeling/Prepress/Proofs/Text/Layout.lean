/-
# Laying out lines

What may be added to written lines without adding to what they say: spacing before and after what
stands on a line (`IsPadded`), lines with nothing but spacing (`LaidOut`), and line ends of three
kinds (`AreLinesOf`).

* `LaidOut.forall₂` : a reading of lines that passes over spacing reads the lines that are laid out
  one by one, in order;
* `AreLinesOf.contentLines_eq` : the content of a text is that of its lines, however they end.
-/
import Mathlib.Data.List.Forall2
import Prepress.Proofs.Text.Lines
import Prepress.Proofs.Text.Newlines
import Prepress.Proofs.Text.Within

namespace Prepress.Text

/-! ## Spacing -/

/-- Blanks that do not end a line, such as spaces and tabulators. -/
def IsSpacing (t : Text) : Prop := Within (fun c => isBlank c = true ∧ isLineBreak c = false) t

instance (t : Text) : Decidable (IsSpacing t) := by
  unfold IsSpacing
  infer_instance

theorem IsSpacing.isAllBlank {t : Text} (h : IsSpacing t) : isAllBlank t = true :=
  List.all_eq_true.2 fun c hc => (h c hc).1

theorem IsSpacing.within_line {t : Text} (h : IsSpacing t) : ∀ c ∈ t, isLineBreak c = false :=
  fun c hc => (h c hc).2

/-- A text with spacing before and after it. -/
def IsPadded (t padded : Text) : Prop :=
  ∃ a b, IsSpacing a ∧ IsSpacing b ∧ padded = a ++ t ++ b

theorem isPadded_self (t : Text) : IsPadded t t :=
  ⟨[], [], within_nil, within_nil, (List.append_nil t).symm⟩

theorem isPadded_append {a b : Text} (ha : IsSpacing a) (hb : IsSpacing b) (t : Text) :
    IsPadded t (a ++ t ++ b) :=
  ⟨a, b, ha, hb, rfl⟩

theorem isPadded_append_left {a : Text} (ha : IsSpacing a) (t : Text) : IsPadded t (a ++ t) :=
  ⟨a, [], ha, within_nil, (List.append_nil _).symm⟩

theorem IsPadded.trim_eq {t padded : Text} (h : IsPadded t padded) : trim padded = trim t := by
  obtain ⟨a, b, ha, hb, rfl⟩ := h
  rw [trim_append_right hb.isAllBlank, trim_append_left ha.isAllBlank]

/-- A padded text within a line has no boundary either. -/
theorem IsPadded.within_line {t padded : Text} (h : IsPadded t padded)
    (ht : ∀ c ∈ t, isLineBreak c = false) : ∀ c ∈ padded, isLineBreak c = false := by
  obtain ⟨a, b, ha, hb, rfl⟩ := h
  exact (Within.append ha.within_line ht).append hb.within_line

/-- Spacing brings in no other characters than blanks. -/
theorem IsPadded.not_mem {t padded : Text} (h : IsPadded t padded) {c : Char}
    (hc : isBlank c = false) (ht : c ∉ t) : c ∉ padded := by
  obtain ⟨a, b, ha, hb, rfl⟩ := h
  rw [List.mem_append, List.mem_append, not_or, not_or]
  exact ⟨⟨not_mem_of_isAllBlank ha.isAllBlank hc, ht⟩, not_mem_of_isAllBlank hb.isAllBlank hc⟩

/-! ## Content of lines -/

/-- A text can stand on a line as its content. -/
structure IsContent (t : Text) : Prop where
  trimmed : trim t = t
  ne_nil : t ≠ []
  within_line : ∀ c ∈ t, isLineBreak c = false

instance (t : Text) : Decidable (IsContent t) :=
  decidable_of_iff (trim t = t ∧ t ≠ [] ∧ ∀ c ∈ t, isLineBreak c = false)
    ⟨fun ⟨h₁, h₂, h₃⟩ => ⟨h₁, h₂, h₃⟩, fun ⟨h₁, h₂, h₃⟩ => ⟨h₁, h₂, h₃⟩⟩

/-- The content of every line of a text is a content. -/
theorem isContent_of_mem_contentLines {t l : Text} (h : l ∈ contentLines t) : IsContent l := by
  obtain ⟨k, hk, hl⟩ := List.mem_filterMap.1 h
  split at hl
  · simp at hl
  · next hblank =>
      rw [← Option.some.inj hl]
      refine ⟨trim_trim k, ?_, ?_⟩
      · intro hnil
        obtain ⟨a, b, ha, hb, hab⟩ := exists_trim k
        refine hblank ?_
        rw [hnil, List.nil_append] at hab
        rw [isAllBlank] at ha hb ⊢
        rw [hab, List.all_append, ha, hb]
        rfl
      · exact (not_isLineBreak_of_mem_lines t k hk).sublist (trim_sublist k)

/-- What stands between two contents on a line makes one content with them. -/
theorem IsContent.between {a b m : Text} (ha : IsContent a) (hb : IsContent b)
    (hm : ∀ c ∈ m, isLineBreak c = false) : IsContent (a ++ m ++ b) where
  trimmed := by
    have hhead := (trim_eq_self_iff.1 ha.trimmed).1
    have hlast := (trim_eq_self_iff.1 hb.trimmed).2
    rw [trim_eq_self_iff, List.append_assoc, List.head?_append_of_ne_nil _ ha.ne_nil,
      ← List.append_assoc, List.getLast?_append_of_ne_nil _ hb.ne_nil]
    exact ⟨hhead, hlast⟩
  ne_nil := List.append_ne_nil_of_right_ne_nil _ hb.ne_nil
  within_line := Within.append (Within.append ha.within_line hm) hb.within_line

theorem contentLines_of_isSpacing {l : Text} (h : IsSpacing l) : contentLines l = [] := by
  rw [contentLines_last h.within_line, content?, if_pos h.isAllBlank]
  rfl

/-- A padded text has itself as content. -/
theorem IsContent.content?_eq {t l : Text} (ht : IsContent t) (h : IsPadded t l) :
    content? l = some t := by
  have htrim : trim l = t := h.trim_eq.trans ht.trimmed
  have hblank : isAllBlank l = false := by
    rw [← Bool.not_eq_true]
    intro hl
    rw [trim_of_isAllBlank hl] at htrim
    exact ht.ne_nil htrim.symm
  rw [content?, hblank, htrim]
  rfl

theorem IsContent.contentLines_eq {t l : Text} (ht : IsContent t) (h : IsPadded t l) :
    contentLines l = [t] := by
  rw [contentLines_last (h.within_line ht.within_line), ht.content?_eq h]
  rfl

/-! ## Lines in order -/

section LaidOut

variable {α β : Type} {R : α → Text → Prop}

/-- Lines are written for some things in order, with blank lines anywhere between them. -/
inductive LaidOut (R : α → Text → Prop) : List α → List Text → Prop
  | nil : LaidOut R [] []
  | blank {l : Text} {xs : List α} {ls : List Text} :
      IsSpacing l → LaidOut R xs ls → LaidOut R xs (l :: ls)
  | line {x : α} {l : Text} {xs : List α} {ls : List Text} :
      R x l → LaidOut R xs ls → LaidOut R (x :: xs) (l :: ls)

/-- A reading that finds nothing on blank lines and one thing on each of the others finds them in
order. -/
theorem LaidOut.forall₂ {Q : α → β → Prop} {read : Text → List β} {xs : List α} {ls : List Text}
    (h : LaidOut R xs ls) (hblank : ∀ l, IsSpacing l → read l = [])
    (hline : ∀ x ∈ xs, ∀ l, R x l → ∃ y, read l = [y] ∧ Q x y) :
    List.Forall₂ Q xs (ls.flatMap read) := by
  induction h with
  | nil => exact List.Forall₂.nil
  | blank hl _ ih =>
      rw [List.flatMap_cons, hblank _ hl, List.nil_append]
      exact ih hline
  | @line x l xs ls hl _ ih =>
      obtain ⟨y, hy, hxy⟩ := hline x (by simp) l hl
      rw [List.flatMap_cons, hy, List.singleton_append]
      exact .cons hxy (ih fun z hz => hline z (List.mem_cons_of_mem x hz))

/-- Every line is blank or written for one of the things. -/
theorem LaidOut.line_cases {xs : List α} {ls : List Text} (h : LaidOut R xs ls) {l : Text}
    (hl : l ∈ ls) : IsSpacing l ∨ ∃ x ∈ xs, R x l := by
  induction h with
  | nil => simp at hl
  | blank hk _ ih =>
      rcases List.mem_cons.1 hl with rfl | hl
      · exact Or.inl hk
      · exact ih hl
  | @line x k xs ls hk _ ih =>
      rcases List.mem_cons.1 hl with rfl | hl
      · exact Or.inr ⟨x, by simp, hk⟩
      · exact (ih hl).imp_right fun ⟨y, hy, hyl⟩ => ⟨y, List.mem_cons_of_mem x hy, hyl⟩

end LaidOut

/-- The contents of padded lines are read back in order. -/
theorem LaidOut.contentLines_eq {cs ls : List Text} (h : LaidOut IsPadded cs ls)
    (hc : ∀ c ∈ cs, IsContent c) : ls.flatMap contentLines = cs := by
  have hread := h.forall₂ (Q := fun c l => c = l) (fun l hl => contentLines_of_isSpacing hl)
    fun c hm l hl => ⟨c, (hc c hm).contentLines_eq hl, rfl⟩
  rw [List.forall₂_eq_eq_eq] at hread
  exact hread.symm

/-- Pieces without a mark in them are found again in the text that joins them. -/
theorem splitOn_join {mark : Char} {ls : List Text} (hne : ls ≠ []) (h : ∀ l ∈ ls, mark ∉ l) :
    splitOn mark (join [mark] ls) = ls := by
  induction ls with
  | nil => exact absurd rfl hne
  | cons l ls ih =>
      have hl := h l (by simp)
      by_cases hls : ls = []
      · rw [hls]
        exact splitOn_last hl
      · rw [join_cons _ l hls, List.append_assoc, List.singleton_append, splitOn_line hl,
          ih hls fun k hk => h k (List.mem_cons_of_mem l hk)]

/-! ## Line ends -/

/-- A line feed, a carriage return with a line feed, or a carriage return. -/
def IsLineEnd (e : Text) : Prop := e = ['\n'] ∨ e = ['\r', '\n'] ∨ e = ['\r']

instance (e : Text) : Decidable (IsLineEnd e) := by
  unfold IsLineEnd
  infer_instance

/-- A text is made of lines, each with a line end after it, which may be left out after the last. -/
inductive AreLinesOf : List Text → Text → Prop
  | nil : AreLinesOf [] []
  | last (l : Text) : AreLinesOf [l] l
  | line {l e t : Text} {ls : List Text} :
      IsLineEnd e → AreLinesOf ls t → AreLinesOf (l :: ls) (l ++ (e ++ t))

/-- A line end parts the content before it from the content after it. -/
theorem contentLines_append_lineEnd {e : Text} (he : IsLineEnd e) (s t : Text) :
    contentLines (s ++ (e ++ t)) = contentLines s ++ contentLines t := by
  rcases he with rfl | rfl | rfl
  · exact contentLines_append_break (by decide) s t
  · have hfeed : contentLines ('\n' :: t) = contentLines t :=
      contentLines_append_break (by decide) [] t
    rw [← hfeed]
    exact contentLines_append_break (by decide) s ('\n' :: t)
  · exact contentLines_append_break (by decide) s t

/-- The content of a text is that of its lines. -/
theorem AreLinesOf.contentLines_eq {ls : List Text} {t : Text} (h : AreLinesOf ls t) :
    contentLines t = ls.flatMap contentLines := by
  induction h with
  | nil => rfl
  | last l => rw [List.flatMap_singleton]
  | line he _ ih => rw [contentLines_append_lineEnd he, ih, List.flatMap_cons]

end Prepress.Text
