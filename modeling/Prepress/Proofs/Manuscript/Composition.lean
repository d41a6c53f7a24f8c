/-
# Rendering passage by passage

The two passes together render a row of passages block by block, each on its own, exactly when no
timeline block begins in a table of the first pass (`drawn_signed_dated`).  A table can bring one
about: taking the marks of emphasis out of a label, or the blanks out of the name of a field, may
put three backticks and the tag together that were apart in the manuscript
(`drawn_signed_dated_formedFence`).
-/
import Prepress.Proofs.Manuscript.Passages
import Prepress.Proofs.Timeline.Svg

namespace Prepress.Manuscript

open Text

variable {α : Type} [Measure α]

/-! ## What is rendered for timeline blocks -/

/-- What takes the place of a timeline block begins with a tag, if the messages of the options
do. -/
theorem isMarkup_drawing {o : Options α} (he : o.timeline.emptyMessage.head? = some '<')
    (hf : o.timelineFailure.head? = some '<') :
    IsMarkup o.timelineFailure fun body => (Timeline.render o.timeline body).result := by
  intro body
  rw [replacement, Piece.expand]
  split
  · next text hr =>
      rcases Timeline.render_cases hr with ⟨hb, ht⟩ | ⟨-, ht | ⟨drawing, -, ht⟩⟩
      · exact Or.inl ⟨List.all_eq_true.1 hb, ht⟩
      · rw [ht]
        exact Or.inr he
      · rw [ht]
        exact Or.inr drawing.head?_text
  · exact Or.inr hf

/-! ## Both passes -/

/-- A cleaned row of passages without a placeholder is rendered block by block if the tables are
inert, and only then if the messages of the options begin with a tag. -/
theorem drawn_signed_dated (o : Options α) (now : Instant) {lead : Text} {ps : List Passage}
    (hl : IsLead lead ps) (hw : WellFenced ps)
    (hclean : cleaned (lead ++ layout Passage.source ps) = lead ++ layout Passage.source ps)
    (hdate : ¬ o.datePlaceholder <:+: lead ++ layout Passage.source ps) :
    (TablesAreInert o ps →
      drawn o (signed o (dated o now (lead ++ layout Passage.source ps)))
        = lead ++ layout (Passage.result o) ps) ∧
    (o.timeline.emptyMessage.head? = some '<' → o.timelineFailure.head? = some '<' →
      drawn o (signed o (dated o now (lead ++ layout Passage.source ps)))
        = lead ++ layout (Passage.result o) ps →
      TablesAreInert o ps) := by
  have hdated : dated o now (lead ++ layout Passage.source ps)
      = lead ++ layout Passage.source ps := by
    rw [dated, replace_eq_self _ (occursIn_eq_false_iff.2 hdate), hclean]
  rw [hdated, signed_source o hl hw]
  constructor
  · intro hi
    exact drawn_halfway o hl hw hi
  · intro he hf h
    exact tablesAreInert_of_drawn_halfway (isMarkup_drawing he hf) hl hw h

/-- A block of each kind, with text before, between and after them. -/
def twoPassages : List Passage :=
  [⟨.signatures, "x".toList, "\nb\n".toList⟩, ⟨.timeline, "x".toList, "\nc".toList⟩]

theorem drawn_signed_dated_twoPassages :
    let o : Options Rat := Options.standard
    drawn o (signed o (dated o ⟨0, by decide⟩ ("a\n".toList ++ layout Passage.source twoPassages)))
      = "a\n".toList ++ layout (Passage.result o) twoPassages := by
  intro o
  have hnone : ∀ t, occursIn fence t = false → ¬ fence <:+: t := fun _ => occursIn_eq_false_iff.1
  have hl : IsLead "a\n".toList twoPassages := ⟨hnone _ (by decide), fun _ => by decide⟩
  have hw : WellFenced twoPassages :=
    ⟨hnone _ (by decide), by decide, ⟨hnone _ (by decide), fun _ => by decide⟩,
      hnone _ (by decide), by decide, ⟨hnone _ (by decide), fun h => absurd rfl h⟩, trivial⟩
  have hi : TablesAreInert o twoPassages := by
    refine ⟨fun _ => ?_, fun h => absurd h (by decide), trivial⟩
    have hplain : ∀ rest, Nowhere (fence <+: ·) (Signature.render o.signatures "x\n".toList) rest :=
      nowhere_of_head (c := Char.ofNat 0x60) (by decide) (by decide +kernel)
    exact (hplain _).imp fun _ hs => hs.fence_isPrefix
  exact (drawn_signed_dated o ⟨0, by decide⟩ hl hw (by decide +kernel)
    (occursIn_eq_false_iff.1 (by decide +kernel))).1 hi

/-- A signature block whose only label is a fence and a tag, but for marks of emphasis. -/
def formedFence : List Passage :=
  [⟨.signatures, "|F|A|\n|--|--|\n|`**``timeline`**``|x|".toList, []⟩]

/-- The label becomes a timeline block, and the second pass takes it out of the table. -/
theorem drawn_signed_dated_formedFence :
    let o : Options Rat := Options.standard
    IsLead [] formedFence ∧ WellFenced formedFence ∧
      cleaned (layout Passage.source formedFence) = layout Passage.source formedFence ∧
      occursIn o.datePlaceholder (layout Passage.source formedFence) = false ∧
      drawn o (signed o (dated o ⟨0, by decide⟩ (layout Passage.source formedFence)))
        ≠ layout (Passage.result o) formedFence := by
  intro o
  have hnone : ∀ t, occursIn fence t = false → ¬ fence <:+: t := fun _ => occursIn_eq_false_iff.1
  refine ⟨⟨hnone _ (by decide), fun _ => by decide⟩, ?_, by decide +kernel, by decide +kernel, ?_⟩
  · exact ⟨hnone _ (by decide +kernel), by decide, ⟨hnone _ (by decide), fun h => absurd rfl h⟩,
      trivial⟩
  · decide +kernel

end Prepress.Manuscript
