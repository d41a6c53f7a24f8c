/-
# Preparing a prepared manuscript

Everything that preparing a manuscript can bring forth is stable: it is safe for the printing
surface and has no carriage return, up to the line ends of the platform (`within_composed`).  So
preparing it again changes it only where there is still something to be replaced.  With the options
of a manuscript that says nothing about them, every result can be printed, and a result without a
block and without a placeholder is final:

* `prepare_printable` : a result is safe for the surface and has no line that is a rule;
* `prepare_prepare` : preparing a final result gives the same result.
-/
import Prepress.Manuscript.Preparation
import Prepress.Proofs.Manuscript.Fence
import Prepress.Proofs.Manuscript.Rule
import Prepress.Proofs.Signature.Html
import Prepress.Proofs.Surface
import Prepress.Proofs.Timeline.Svg

namespace Prepress.Manuscript

open Text

/-! ## Stable characters -/

/-- Cleaning leaves a character alone. -/
def IsStable (c : Char) : Prop := Surface.isSafe c = true ∧ c ≠ '\r'

instance (c : Char) : Decidable (IsStable c) := by
  unfold IsStable
  infer_instance

theorem isStable_of_isPlain (c : Char) (h : IsPlain c) : IsStable c := by
  refine ⟨Surface.isSafe_of_isPlain h, ?_⟩
  intro hc
  rw [hc] at h
  revert h
  decide

theorem not_mem_of_within {t : Text} (h : Within IsStable t) : '\r' ∉ t :=
  fun hr => (h '\r' hr).2 rfl

/-- A cleaned text is stable. -/
theorem within_cleaned (t : Text) : Within IsStable (cleaned t) := by
  intro c hc
  rw [cleaned] at hc
  constructor
  · by_cases hn : c = '\n'
    · rw [hn]
      decide
    · exact Surface.isSafe_of_mem_sanitize (mem_of_mem_normalizeNewlines hc hn)
  · intro hr
    rw [hr] at hc
    exact not_mem_normalizeNewlines _ hc

/-- A safe text is cleaned by normalizing its line ends. -/
theorem cleaned_of_isSafe {t : Text} (h : ∀ c ∈ t, Surface.isSafe c = true) :
    cleaned t = normalizeNewlines t := by
  rw [cleaned, Surface.sanitize_eq_self h]

/-! ## Line ends -/

section LineEnds

variable {α : Type} {o : Options α} {lineEnd t : Text}

theorem isSafe_of_mem_restored (hl : ∀ c ∈ lineEnd, Surface.isSafe c = true)
    (ht : Within IsStable t) : ∀ c ∈ restored o lineEnd t, Surface.isSafe c = true := by
  rw [restored]
  split
  · intro c hc
    obtain ⟨d, hd, hcd⟩ := List.mem_flatMap.1 hc
    split at hcd
    · exact hl c hcd
    · rw [List.mem_singleton] at hcd
      rw [hcd]
      exact (ht d hd).1
  · exact fun c hc => (ht c hc).1

theorem normalizeNewlines_restored (hl : lineEnd = ['\n'] ∨ lineEnd = ['\r', '\n'])
    (ht : Within IsStable t) : normalizeNewlines (restored o lineEnd t) = t := by
  rw [restored]
  split
  · next h =>
      rcases hl with hl | hl
      · exact absurd hl h.2
      · rw [hl]
        exact normalizeNewlines_replaceChar (not_mem_of_within ht)
  · exact normalizeNewlines_eq_self (not_mem_of_within ht)

/-- Reading a result again undoes the line ends of the platform, and nothing else. -/
theorem cleaned_restored (hl : lineEnd = ['\n'] ∨ lineEnd = ['\r', '\n'])
    (ht : Within IsStable t) : cleaned (restored o lineEnd t) = t := by
  have hsafe : ∀ c ∈ lineEnd, Surface.isSafe c = true := by
    rcases hl with rfl | rfl <;> decide
  rw [cleaned_of_isSafe (isSafe_of_mem_restored hsafe ht), normalizeNewlines_restored hl ht]

end LineEnds

/-! ## Stable options -/

variable {α : Type}

/-- Options that bring in stable characters only, whose marker of page breaks is a line of its own
and no rule, and whose placeholder lies within a line. -/
structure Options.IsStable (o : Options α) : Prop where
  pageBreakMarker : Within Manuscript.IsStable o.pageBreakMarker
  signatureFailure : Within Manuscript.IsStable o.signatureFailure
  timelineFailure : Within Manuscript.IsStable o.timelineFailure
  untitledSection : Within Manuscript.IsStable o.signatures.untitledSection
  invalidTableMessage : Within Manuscript.IsStable o.signatures.invalidTableMessage
  emptyMessage : Within Manuscript.IsStable o.timeline.emptyMessage
  marker : ∃ k, o.pageBreakMarker = k ++ ['\n'] ∧ '\n' ∉ k ∧ isRule k = false
  placeholder : '\r' ∉ o.datePlaceholder ∧ '\n' ∉ o.datePlaceholder

theorem within_signed {o : Options α} (ho : o.IsStable) {t : Text} (ht : Within IsStable t) :
    Within IsStable (signed o t) := by
  refine within_expand ht ?_
  intro body hb
  exact Signature.within_render isStable_of_isPlain (by decide) ho.untitledSection
    ho.invalidTableMessage hb

variable [Measure α]

theorem Options.isStable_standard : (Options.standard : Options α).IsStable where
  pageBreakMarker := within_literal (by decide)
  signatureFailure := within_plain isStable_of_isPlain (by decide)
  timelineFailure := within_plain isStable_of_isPlain (by decide)
  untitledSection := within_plain isStable_of_isPlain (by decide)
  invalidTableMessage := within_plain isStable_of_isPlain (by decide)
  emptyMessage := within_plain isStable_of_isPlain (by decide)
  marker := by
    refine ⟨"<div style=\"page-break-after: always;\"></div>".toList, ?_, ?_, ?_⟩
    · show "<div style=\"page-break-after: always;\"></div>\n".toList = _
      rw [String.toList_ofList, String.toList_ofList]
      rfl
    · rw [String.toList_ofList]
      decide
    · rw [String.toList_ofList]
      rfl
  placeholder := by
    show '\r' ∉ "[Date]".toList ∧ '\n' ∉ "[Date]".toList
    decide

theorem within_drawn {o : Options α} (ho : o.IsStable) {t : Text} (ht : Within IsStable t) :
    Within IsStable (drawn o t) := by
  refine within_expand ht ?_
  intro body hb
  rw [replacement, Piece.expand]
  split
  · next text hr =>
      exact Timeline.within_render isStable_of_isPlain (by decide) ho.emptyMessage hb hr
  · exact ho.timelineFailure

/-! ## Results -/

/-- A manuscript prepared, but with line feeds only. -/
def composed (o : Options α) (now : Instant) (t : Text) : Text :=
  replaceRules o.pageBreakMarker (drawn o (signed o (dated o now t)))

theorem prepare_nil (o : Options α) (now : Instant) (lineEnd : Text) :
    prepare o now lineEnd [] = [] := by
  rw [prepare, if_pos List.isEmpty_nil]

theorem prepare_of_ne_nil (o : Options α) (now : Instant) (lineEnd : Text) {t : Text}
    (ht : t ≠ []) : prepare o now lineEnd t = restored o lineEnd (composed o now t) := by
  rw [prepare, if_neg (by simpa using ht)]
  rfl

/-- Whatever a manuscript holds, what is made of it is stable. -/
theorem within_composed {o : Options α} (ho : o.IsStable) (now : Instant) (t : Text) :
    Within IsStable (composed o now t) :=
  within_replaceRules ho.pageBreakMarker (within_drawn ho (within_signed ho (within_cleaned _)))

/-- A stable text without a placeholder, a block or a rule is composed to itself. -/
theorem composed_restored {o : Options α} (now : Instant) {lineEnd t : Text}
    (hl : lineEnd = ['\n'] ∨ lineEnd = ['\r', '\n']) (ht : Within IsStable t)
    (hdate : occursIn o.datePlaceholder (restored o lineEnd t) = false)
    (hsignatures : ¬ HasBlock signaturesTag t) (htimeline : ¬ HasBlock timelineTag t)
    (hrules : replaceRules o.pageBreakMarker t = t) :
    composed o now (restored o lineEnd t) = t := by
  have hdated : dated o now (restored o lineEnd t) = t := by
    rw [dated, replace_eq_self _ hdate, cleaned_restored hl ht]
  have hsigned : signed o t = t := expand_eq_self hsignatures
  have hdrawn : drawn o t = t := expand_eq_self htimeline
  rw [composed, hdated, hsigned, hdrawn, hrules]

/-! ## Results that can be printed -/

/-- A text that the printing surface draws as it is, with line feeds only and without rules. -/
structure IsPrintable (t : Text) : Prop where
  isSafe : ∀ c ∈ t, Surface.isSafe c = true
  not_mem : '\r' ∉ t
  not_isRuleLine : ∀ l ∈ splitOn '\n' t, ¬ IsRuleLine l

/-- Rules are replaced after all blocks, so none is left, whatever the blocks leave behind. -/
theorem isPrintable_composed {o : Options α} (ho : o.IsStable) (now : Instant) (t : Text) :
    IsPrintable (composed o now t) := by
  obtain ⟨k, hmarker, hk, hrule⟩ := ho.marker
  have hstable := within_composed ho now t
  refine ⟨fun c hc => (hstable c hc).1, not_mem_of_within hstable, ?_⟩
  intro l hl
  rw [composed, hmarker] at hl
  exact not_isRuleLine_of_mem_replaceRules hk hrule hl

theorem isPrintable_nil : IsPrintable [] := by
  refine ⟨by simp, by simp, ?_⟩
  intro l hl
  rw [List.mem_singleton.1 hl, ← isRule_iff]
  decide

/-- Where lines end with line feeds, what is prepared with stable options can be printed. -/
theorem isPrintable_prepare {o : Options α} (ho : o.IsStable) (now : Instant) (t : Text) :
    IsPrintable (prepare o now ['\n'] t) := by
  by_cases ht : t = []
  · rw [ht, prepare_nil]
    exact isPrintable_nil
  · rw [prepare_of_ne_nil o now ['\n'] ht, restored, if_neg (by simp)]
    exact isPrintable_composed ho now t

/-- Where lines end with line feeds, everything that is prepared with the options of a manuscript
that says nothing about them can be printed. -/
theorem prepare_printable (now : Instant) (t : Text) :
    IsPrintable (prepare (Options.standard : Options α) now ['\n'] t) :=
  isPrintable_prepare Options.isStable_standard now t

/-! ## Preparing a second time -/

theorem replaceRules_composed {o : Options α} (ho : o.IsStable) (now : Instant) (t : Text) :
    replaceRules o.pageBreakMarker (composed o now t) = composed o now t := by
  obtain ⟨k, hmarker, hk, hrule⟩ := ho.marker
  rw [composed, hmarker]
  exact replaceRules_replaceRules hk hrule _

/-- With stable options, a result in which no block and no placeholder is left is final. -/
theorem prepare_prepare_of_isStable {o : Options α} (ho : o.IsStable) (now later : Instant)
    {lineEnd t : Text} (hl : lineEnd = ['\n'] ∨ lineEnd = ['\r', '\n'])
    (hsignatures : ¬ HasBlock signaturesTag (normalizeNewlines (prepare o now lineEnd t)))
    (htimeline : ¬ HasBlock timelineTag (normalizeNewlines (prepare o now lineEnd t)))
    (hdate : ¬ o.datePlaceholder <:+: normalizeNewlines (prepare o now lineEnd t)) :
    prepare o later lineEnd (prepare o now lineEnd t) = prepare o now lineEnd t := by
  by_cases ht : t = []
  · rw [ht, prepare_nil, prepare_nil]
  · rw [prepare_of_ne_nil o now lineEnd ht] at hsignatures htimeline hdate ⊢
    -- the result is stable, so cleaning it again undoes its line ends and nothing else
    have hstable := within_composed ho now t
    have hplace : occursIn o.datePlaceholder (restored o lineEnd (composed o now t)) = false := by
      rw [occursIn_eq_false_iff]
      intro h
      exact hdate (infix_normalizeNewlines ho.placeholder.1 ho.placeholder.2 h)
    rw [normalizeNewlines_restored hl hstable] at hsignatures htimeline
    by_cases hout : restored o lineEnd (composed o now t) = []
    · rw [hout, prepare_nil]
    · have hagain := composed_restored later hl hstable hplace hsignatures htimeline
        (replaceRules_composed ho now t)
      rw [prepare_of_ne_nil o later lineEnd hout, hagain]

/-- With the options of a manuscript that says nothing about them, a result in which no block and
no placeholder is left is final, whenever it is prepared again. -/
theorem prepare_prepare (now later : Instant) (lineEnd t : Text)
    (hl : lineEnd = ['\n'] ∨ lineEnd = ['\r', '\n'])
    (hsignatures : ¬ HasBlock signaturesTag
      (normalizeNewlines (prepare (Options.standard : Options α) now lineEnd t)))
    (htimeline : ¬ HasBlock timelineTag
      (normalizeNewlines (prepare (Options.standard : Options α) now lineEnd t)))
    (hdate : ¬ (Options.standard : Options α).datePlaceholder
      <:+: normalizeNewlines (prepare (Options.standard : Options α) now lineEnd t)) :
    prepare (Options.standard : Options α) later lineEnd
        (prepare (Options.standard : Options α) now lineEnd t)
      = prepare (Options.standard : Options α) now lineEnd t :=
  prepare_prepare_of_isStable Options.isStable_standard now later hl hsignatures htimeline hdate

/-- A manuscript with a symbol, a placeholder, a rule and a block. -/
def manyParts : Text := "≠ [Date]\n----\n```signatures\nx\n```\n".toList

theorem prepare_prepare_manyParts :
    let o : Options Rat := Options.standard
    let out := prepare o ⟨0, by decide⟩ ['\r', '\n'] manyParts
    out ≠ manyParts ∧ prepare o ⟨dayMicros, by decide⟩ ['\r', '\n'] out = out := by
  intro o out
  have hout : out ≠ manyParts ∧ occursIn fence (normalizeNewlines out) = false
      ∧ occursIn o.datePlaceholder (normalizeNewlines out) = false := by
    decide +kernel
  refine ⟨hout.1, ?_⟩
  exact prepare_prepare ⟨0, by decide⟩ ⟨dayMicros, by decide⟩ ['\r', '\n'] manyParts (Or.inr rfl)
    (not_hasBlock_of_occursIn hout.2.1) (not_hasBlock_of_occursIn hout.2.1)
    (occursIn_eq_false_iff.1 hout.2.2)

end Prepress.Manuscript
