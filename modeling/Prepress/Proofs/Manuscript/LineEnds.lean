/-
# The line ends of a manuscript

Line ends are normalized after the date has taken the place of its placeholder and the text has been
made safe.  Both steps leave line ends alone, so the normalized manuscript comes to the same
(`dated_normalizeNewlines`), and two manuscripts that differ in their line ends only are prepared to
the same text and have the same form fields (`prepare_eq_of_normalizeNewlines_eq`).
-/
import Prepress.Proofs.Calendar.Stamp
import Prepress.Proofs.Manuscript.Stability
import Prepress.Proofs.Text.LineEnds

namespace Prepress.Manuscript

open Text

/-! ## Cleaning -/

/-- The safe form of a text does not depend on how its lines end. -/
theorem normalizeNewlines_sanitize (t : Text) :
    normalizeNewlines (Surface.sanitize t) = Surface.sanitize (normalizeNewlines t) := by
  have hends : ∀ e ∈ ['\r', '\n'], ¬ Surface.IsSpelling e := by decide
  rw [Surface.sanitize_eq_flatMap, Surface.sanitize_eq_flatMap]
  refine normalizeNewlines_flatMap (by decide) (by decide) ?_ t
  intro c hr hn
  have hnone : ∀ e ∈ ['\r', '\n'], e ∉ Surface.safeForm c := by
    intro e he hmem
    cases hs : Surface.isSafe c with
    | true =>
        rw [Surface.safeForm_eq_self hs, List.mem_singleton] at hmem
        rw [hmem, List.mem_cons, List.mem_singleton] at he
        exact he.elim hr hn
    | false => exact hends e he (Surface.isSpelling_of_mem_safeForm hs hmem)
  exact ⟨Surface.safeForm_ne_nil c, hnone '\r' (by simp), hnone '\n' (by simp)⟩

theorem cleaned_normalizeNewlines (t : Text) : cleaned (normalizeNewlines t) = cleaned t := by
  unfold cleaned
  rw [← normalizeNewlines_sanitize, normalizeNewlines_eq_self (not_mem_normalizeNewlines _)]

/-! ## Whole manuscripts -/

section Manuscripts

variable {α : Type} {o : Options α} {now : Instant}
  (hp : o.datePlaceholder ≠ [] ∧ '\r' ∉ o.datePlaceholder ∧ '\n' ∉ o.datePlaceholder)
  (hd : dateText o now ≠ [] ∧ '\r' ∉ dateText o now ∧ '\n' ∉ dateText o now)

include hp hd

/-- A manuscript is dated and cleaned in the same way however its lines end, if the placeholder and
the date lie within a line. -/
theorem dated_normalizeNewlines (t : Text) : dated o now (normalizeNewlines t) = dated o now t := by
  unfold dated
  rw [← normalizeNewlines_replace hp.1 hp.2.1 hp.2.2 hd.1 hd.2.1 hd.2.2,
    cleaned_normalizeNewlines]

/-- So it is prepared to the same text. -/
theorem prepare_normalizeNewlines [Measure α] (lineEnd t : Text) :
    prepare o now lineEnd (normalizeNewlines t) = prepare o now lineEnd t := by
  by_cases ht : t = []
  · rw [ht]
    rfl
  · rw [prepare_of_ne_nil o now lineEnd ht,
      prepare_of_ne_nil o now lineEnd (normalizeNewlines_ne_nil ht), composed, composed,
      dated_normalizeNewlines hp hd]

end Manuscripts

theorem fieldNames_normalizeNewlines (options : Signature.Options) (t : Text) :
    fieldNames options (normalizeNewlines t) = fieldNames options t := by
  unfold fieldNames
  rw [cleaned_normalizeNewlines]

variable {α : Type} [Measure α]

/-- The short form of the date lies within a line. -/
theorem dateText_standard (now : Instant) :
    dateText (Options.standard : Options α) now ≠ [] ∧
      '\r' ∉ dateText (Options.standard : Options α) now ∧
      '\n' ∉ dateText (Options.standard : Options α) now := by
  have hshort : dateText (Options.standard : Options α) now
      = Calendar.Stamp.slashed now.date := Calendar.Stamp.format_short now
  have hplain : Within IsPlain (Calendar.Stamp.slashed now.date) :=
    Calendar.Stamp.within_slashed (fun _ => isPlain_of_isDigit) (by decide) now.date
  rw [hshort]
  exact ⟨Calendar.Stamp.slashed_ne_nil now.date, hplain.not_mem (by decide),
    hplain.not_mem (by decide)⟩

/-- With the options of a manuscript that says nothing about them, two manuscripts that differ in
their line ends only are prepared to the same text and have the same form fields. -/
theorem prepare_eq_of_normalizeNewlines_eq (now : Instant) (lineEnd : Text) {a b : Text}
    (h : normalizeNewlines a = normalizeNewlines b) :
    prepare (Options.standard : Options α) now lineEnd a
        = prepare (Options.standard : Options α) now lineEnd b ∧
      fieldNames (Options.standard : Options α).signatures a
        = fieldNames (Options.standard : Options α).signatures b := by
  have hplaceholder : (Options.standard : Options α).datePlaceholder = "[Date]".toList := rfl
  have hp : (Options.standard : Options α).datePlaceholder ≠ [] ∧
      '\r' ∉ (Options.standard : Options α).datePlaceholder ∧
      '\n' ∉ (Options.standard : Options α).datePlaceholder := by
    rw [hplaceholder]
    decide
  have hd := dateText_standard (α := α) now
  constructor
  · rw [← prepare_normalizeNewlines hp hd, h, prepare_normalizeNewlines hp hd]
  · rw [← fieldNames_normalizeNewlines, h, fieldNames_normalizeNewlines]

/-- Two manuscripts whose lines end in other ways, by the placeholder, by a rule and in a block. -/
theorem prepare_eq_of_normalizeNewlines_eq_mixed :
    let o : Options Float := Options.standard
    let now : Instant := ⟨63872530200000000, by decide⟩
    let a := "Signed [Date]\r\n----\r```signatures\r|F|A|\n|--|--|\r\n|N||\r```".toList
    let b := "Signed [Date]\n----\r\n```signatures\n|F|A|\r|--|--|\n|N||\r\n```".toList
    a ≠ b ∧ normalizeNewlines a = normalizeNewlines b ∧
      prepare o now ['\r', '\n'] a = prepare o now ['\r', '\n'] b ∧
        fieldNames o.signatures a = fieldNames o.signatures b := by
  intro o now a b
  have h : normalizeNewlines a = normalizeNewlines b := by decide
  exact ⟨by decide, h, prepare_eq_of_normalizeNewlines_eq (α := Float) now ['\r', '\n'] h⟩

end Prepress.Manuscript
