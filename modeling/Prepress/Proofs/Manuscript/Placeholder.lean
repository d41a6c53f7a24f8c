/-
# Placeholders

The date takes the place of every placeholder before anything else is done, and none is left then
(`not_infix_dated`).  No later step writes a placeholder.  But some leave characters out: marks of
emphasis in labels, blanks and slashes in the names of fields, and blocks that are blank.  So the
parts of a placeholder may come together:

* `infix_expand_iff` : when blocks are rendered, a mark is found where it is found in what replaces
  a block, or in the text without the blocks;
* `placeholder_prepare` : where a placeholder can be found in a prepared manuscript;
* `placeholder_prepare_formed` : manuscripts in which one is put together.
-/
import Prepress.Proofs.Calendar.Stamp
import Prepress.Proofs.Manuscript.Passages
import Prepress.Proofs.Manuscript.Stability
import Prepress.Proofs.Signature.Words
import Prepress.Proofs.Timeline.Words

namespace Prepress.Manuscript

open Text Markup

variable {mark : Text}

/-! ## Blocks -/

/-- What is left of a piece besides its block: a blank block leaves nothing behind, and every other
block a line feed. -/
def Piece.besides : Piece → Text
  | .prose c => [c]
  | .block body => if isAllBlank body then [] else ['\n']

/-- A text besides its blocks. -/
def besides (tag t : Text) : Text := (pieces tag t).flatMap Piece.besides

section Blocks

variable {ε : Type} {tag failure : Text} {render : Text → Except ε Text}

theorem mem_bodies_iff {body t : Text} :
    body ∈ bodies tag t ↔ Piece.block body ∈ pieces tag t := by
  rw [bodies, List.mem_filterMap]
  constructor
  · rintro ⟨piece, hp, h⟩
    cases piece with
    | prose c => simp at h
    | block b => rwa [← Option.some.inj h]
  · exact fun h => ⟨.block body, h, rfl⟩

theorem infix_of_mem_bodies {body t : Text} (h : body ∈ bodies tag t) : body <:+: t :=
  infix_of_block_mem_pieces (mem_bodies_iff.1 h)

section Replacement

variable (hn : '\n' ∉ mark) (hm : mark ≠ [])
  (hblank : ∀ body, isAllBlank body = true → replacement failure render body = [])
  (hother : ∀ body, isAllBlank body = false → IsEnclosed mark (replacement failure render body))

include hn hm hblank hother

/-- Whatever stands before some pieces, a mark is found in the rendered pieces just where it is
found in what replaces a block, or besides the blocks. -/
theorem infix_append_flatMap_expand_iff (a : Text) (ps : List Piece) :
    mark <:+: a ++ ps.flatMap (Piece.expand failure render) ↔
      mark <:+: a ++ ps.flatMap Piece.besides ∨
        ∃ body, Piece.block body ∈ ps ∧ mark <:+: replacement failure render body := by
  induction ps generalizing a with
  | nil => simp
  | cons p ps ih =>
      rw [List.flatMap_cons, List.flatMap_cons]
      cases p with
      | prose c =>
          have hrest := ih (a ++ [c])
          rw [List.append_assoc, List.append_assoc] at hrest
          have hbody : ∀ b, Piece.block b ∈ Piece.prose c :: ps ↔ Piece.block b ∈ ps := by
            simp
          simp only [hbody]
          exact hrest
      | block body =>
          have hbody : ∀ b, Piece.block b ∈ Piece.block body :: ps ↔
              b = body ∨ Piece.block b ∈ ps := by
            simp
          simp only [hbody, or_and_right, exists_or, exists_eq_left]
          show mark <:+: a ++ (replacement failure render body ++ _) ↔
            mark <:+: a ++ ((if isAllBlank body then [] else ['\n']) ++ _) ∨ _
          cases hb : isAllBlank body with
          | true =>
              have hnil : ¬ mark <:+: [] := fun h => hm (List.infix_nil.1 h)
              rw [hblank body hb, or_iff_right hnil]
              exact ih a
          | false =>
              -- the ends of what replaces the block part it from both sides
              have hrest := ih []
              rw [List.nil_append, List.nil_append] at hrest
              rw [← List.append_assoc, (hother body hb).infix_iff hm, hrest, if_neg (by simp),
                List.singleton_append, infix_append_cons_iff hn]
              tauto

/-- When blank blocks are left out, and what replaces any other block begins and ends with
characters that a mark does not have, the mark is found in the rendered text just where it is found
in what replaces a block, or in the text besides the blocks. -/
theorem infix_expand_iff (t : Text) :
    mark <:+: expand tag failure render t ↔
      mark <:+: besides tag t ∨
        ∃ body ∈ bodies tag t, mark <:+: replacement failure render body := by
  have hpieces := infix_append_flatMap_expand_iff hn hm hblank hother [] (pieces tag t)
  simp only [← mem_bodies_iff] at hpieces
  exact hpieces

end Replacement

end Blocks

/-! ## Steps that bring no word about -/

/-- Replacing rules neither brings a word in brackets about nor takes it away. -/
theorem infix_replaceRules_iff (hm : IsBracketed mark) {marker : Text} (hw : IsWall mark marker)
    (t : Text) : mark <:+: replaceRules marker t ↔ mark <:+: t := by
  -- a rule has no bracket, so no word is lost with it
  have hrule : ∀ l, isRule l = true → ¬ mark <:+: l := by
    intro l hl
    obtain ⟨a, b, n, ha, hb, -, rfl⟩ := isRule_iff.1 hl
    refine hm.not_isInfix ?_
    rw [List.mem_append, List.mem_append, not_or, not_or, List.mem_replicate]
    exact ⟨⟨ha.not_mem (by decide), by simp⟩, hb.not_mem (by decide)⟩
  induction t using line_induction with
  | last l hl =>
      rw [replaceRules_last _ hl]
      split
      · next hr => exact iff_of_false hw.not_isInfix (hrule l hr)
      · exact Iff.rfl
  | line l t hl ih =>
      have hn : '\n' ∉ mark := hm.not_mem (by decide)
      have hrest : mark <:+: replaceRules marker t ↔ mark <:+: t := ih
      rw [replaceRules_line _ hl, infix_append_cons_iff hn]
      split
      · next hr => rw [hw.infix_append_left_iff, hrest, or_iff_right (hrule l hr)]
      · rw [List.append_assoc, List.singleton_append, infix_append_cons_iff hn, hrest]

/-- Neither do the line ends of a platform. -/
theorem infix_restored_iff {α : Type} (hm : IsBracketed mark) (o : Options α) {lineEnd : Text}
    (hl : lineEnd = ['\n'] ∨ lineEnd = ['\r', '\n']) (t : Text) :
    mark <:+: restored o lineEnd t ↔ mark <:+: t := by
  rw [restored]
  split
  · have hwall : IsWall mark lineEnd := by
      rcases hl with rfl | rfl <;> exact hm.isWall (by decide)
    refine infix_flatMap_iff ?_ t
    intro c
    by_cases hc : c = '\n'
    · rw [if_pos hc, hc]
      exact Or.inr ⟨hm.not_mem (by decide), hwall⟩
    · exact Or.inl (if_neg hc)
  · exact Iff.rfl

/-- Neither do the spellings of the surface, unless the word has the letter that one of them is. -/
theorem infix_sanitize_iff (hm : IsBracketed mark) (hv : 'v' ∉ mark) (t : Text) :
    mark <:+: Surface.sanitize t ↔ mark <:+: t := by
  have hsymbols : ∀ s ∈ Surface.symbols, IsBare s.2 ∨ s.2 = ['v'] := by decide
  have hbrackets : ∀ c ∈ ['[', ']'], Surface.isSafe c = true := by decide
  -- an unsafe character is neither a letter nor a bracket
  have hsign : ∀ c, Surface.isSafe c = false → IsSign c := by
    intro c hc
    constructor
    · by_contra halpha
      rw [Bool.not_eq_false] at halpha
      rw [Surface.isSafe_of_isPlain (isPlain_of_isAlpha halpha)] at hc
      simp at hc
    · intro hb
      rw [hbrackets c hb] at hc
      simp at hc
  rw [Surface.sanitize_eq_flatMap]
  refine infix_flatMap_iff ?_ t
  intro c
  cases hc : Surface.isSafe c with
  | true => exact Or.inl (Surface.safeForm_eq_self hc)
  | false =>
      refine Or.inr ⟨hm.not_mem (hsign c hc), ?_⟩
      rcases Surface.safeForm_of_unsafe hc with ⟨s, hs, he⟩ | he
      · rw [he]
        rcases hsymbols s hs with h | h
        · exact hm.isWall h
        · rw [h]
          exact ⟨⟨⟨'v', [], rfl, hv⟩, [], 'v', rfl, hv⟩, hm.not_isInfix (by decide)⟩
      · have hdigits : '[' ∉ ofNat c.toNat := by
          intro hd
          exact absurd (isDigit_of_mem_ofNat hd) (by decide)
        have hbare : IsBare (['&', '#'] ++ ofNat c.toNat ++ [';']) :=
          IsBare.append (by decide) hdigits (by decide)
        rw [he]
        exact hm.isWall hbare

/-! ## The date -/

/-- The short form of the date is made of digits and slashes, so it is a wall. -/
theorem isWall_slashed (hm : IsBracketed mark) (d : Date) :
    IsWall mark (Calendar.Stamp.slashed d) := by
  have hsigns : Within IsSign (Calendar.Stamp.slashed d) :=
    Calendar.Stamp.within_slashed (fun _ => isSign_of_isDigit) (by decide) d
  exact hm.isWall (isBare_of_within hsigns (Calendar.Stamp.slashed_ne_nil d))

/-! ## Where a placeholder is found -/

/-- After the first steps no placeholder is left. -/
theorem not_infix_dated {α : Type} {o : Options α} (hm : IsBracketed o.datePlaceholder)
    (hv : 'v' ∉ o.datePlaceholder) {now : Instant}
    (hd : IsWall o.datePlaceholder (dateText o now)) (t : Text) :
    ¬ o.datePlaceholder <:+: dated o now t := by
  rw [dated, cleaned, infix_normalizeNewlines_iff (hm.not_mem (by decide)) (hm.not_mem (by decide)),
    infix_sanitize_iff hm hv]
  exact not_infix_replace hd t

/-- A word in brackets that a text does not have is found after the first pass exactly when the
text has it besides the signature blocks, or when a section has it in a plain label or in the name
of a field. -/
theorem infix_signed_iff {α : Type} (hm : IsBracketed mark) {o : Options α}
    (hmessage : ¬ mark <:+: o.signatures.invalidTableMessage) {t : Text} (ht : ¬ mark <:+: t) :
    mark <:+: signed o t ↔ mark <:+: besides signaturesTag t ∨
      ∃ body ∈ bodies signaturesTag t, ∃ s ∈ Signature.readBlock body,
        s.Has o.signatures.untitledSection mark := by
  rw [signed, infix_expand_iff (hm.not_mem (by decide)) hm.ne_nil]
  · refine or_congr_right (exists_congr fun body => and_congr_right fun hb => ?_)
    exact Signature.infix_render_iff hm hmessage fun h => ht (h.trans (infix_of_mem_bodies hb))
  · intro body hb
    exact if_pos hb
  · intro body hb
    exact Signature.isEnclosed_render hm o.signatures hb

variable {α : Type} [Measure α]

/-- Messages that a word in brackets neither stands in nor reaches over, and labels that are not
cut. -/
structure Options.IsInert (o : Options α) (mark : Text) : Prop where
  pageBreakMarker : IsWall mark o.pageBreakMarker
  timelineFailure : IsWall mark o.timelineFailure
  emptyMessage : IsWall mark o.timeline.emptyMessage
  truncateLabels : o.timeline.truncateLabels = false

theorem Options.isInert_standard (hm : IsBracketed mark) :
    (Options.standard : Options α).IsInert mark where
  pageBreakMarker := hm.isWall (isBare_literal (by decide))
  timelineFailure := hm.isWall (isBare_literal (by decide))
  emptyMessage := hm.isWall (isBare_literal (by decide))
  truncateLabels := rfl

theorem drawing_of_isAllBlank (o : Options α) {body : Text} (hb : isAllBlank body = true) :
    drawing o body = [] := by
  have hrender : (Timeline.render o.timeline body).result = .ok [] := by
    rw [Timeline.render, if_pos hb]
  rw [drawing, replacement, Piece.expand, hrender]

theorem isEnclosed_drawing {o : Options α} (hm : IsBracketed mark) (ho : o.IsInert mark)
    {body : Text} (hb : isAllBlank body = false) : IsEnclosed mark (drawing o body) := by
  rw [drawing, replacement, Piece.expand]
  split
  · next text h => exact Timeline.isEnclosed_of_render hm ho.emptyMessage.isEnclosed hb h
  · exact ho.timelineFailure.isEnclosed

theorem infix_of_infix_drawing {o : Options α} (hm : IsBracketed mark) (ho : o.IsInert mark)
    {body : Text} (h : mark <:+: drawing o body) : mark <:+: body := by
  rw [drawing, replacement, Piece.expand] at h
  split at h
  · next text hr =>
      exact Timeline.infix_of_infix_render hm ho.truncateLabels ho.emptyMessage.not_isInfix hr h
  · exact absurd h ho.timelineFailure.not_isInfix

/-- The second pass keeps what is besides the timeline blocks, and brings in no word in brackets
that its text does not have. -/
theorem infix_drawn {o : Options α} (hm : IsBracketed mark) (ho : o.IsInert mark) (t : Text) :
    (mark <:+: besides timelineTag t → mark <:+: drawn o t) ∧
      (mark <:+: drawn o t → mark <:+: t ∨ mark <:+: besides timelineTag t) := by
  have hiff : mark <:+: drawn o t ↔
      mark <:+: besides timelineTag t ∨ ∃ body ∈ bodies timelineTag t, mark <:+: drawing o body :=
    infix_expand_iff (hm.not_mem (by decide)) hm.ne_nil (fun _ => drawing_of_isAllBlank o)
      (fun _ => isEnclosed_drawing hm ho) t
  constructor
  · exact fun h => hiff.2 (Or.inl h)
  · intro h
    rcases hiff.1 h with h | ⟨body, hb, h⟩
    · exact Or.inr h
    · exact Or.inl ((infix_of_infix_drawing hm ho h).trans (infix_of_mem_bodies hb))

theorem dated_nil {α : Type} {o : Options α} (hp : o.datePlaceholder ≠ []) (now : Instant) :
    dated o now [] = [] := by
  have hempty : o.datePlaceholder.isEmpty = false := by
    rwa [List.isEmpty_eq_false_iff]
  rw [dated, replace, hempty, if_neg (by simp), replaceFrom, cleaned, Surface.sanitize_eq_flatMap,
    List.flatMap_nil, normalizeNewlines]

/-- The steps after the second pass do not matter. -/
theorem infix_prepare_iff {o : Options α} (hm : IsBracketed mark) (ho : o.IsInert mark)
    (hp : o.datePlaceholder ≠ []) (now : Instant) {lineEnd : Text}
    (hl : lineEnd = ['\n'] ∨ lineEnd = ['\r', '\n']) (t : Text) :
    mark <:+: prepare o now lineEnd t ↔ mark <:+: drawn o (signed o (dated o now t)) := by
  by_cases ht : t = []
  · rw [ht, prepare_nil, dated_nil hp, signed, expand_nil, drawn, expand_nil]
  · rw [prepare_of_ne_nil o now lineEnd ht, infix_restored_iff hm o hl, composed,
      infix_replaceRules_iff hm ho.pageBreakMarker]

/-- With the options of a manuscript that says nothing about them, every placeholder is replaced
before anything is rendered.  A placeholder that is found later has been put together: besides the
signature blocks, where a blank one is left out; in a plain label or in the name of a field, where
marks of emphasis, blanks and slashes are left out; or besides the timeline blocks, where a blank
one is left out. -/
theorem placeholder_prepare (now : Instant) {lineEnd : Text}
    (hl : lineEnd = ['\n'] ∨ lineEnd = ['\r', '\n']) (t : Text) :
    let o : Options α := Options.standard
    let word : Text := "[Date]".toList
    let d := dated o now t
    ¬ word <:+: d ∧
      (word <:+: signed o d ↔ word <:+: besides signaturesTag d ∨
        ∃ body ∈ bodies signaturesTag d, ∃ s ∈ Signature.readBlock body,
          s.Has o.signatures.untitledSection word) ∧
      (word <:+: besides timelineTag (signed o d) → word <:+: prepare o now lineEnd t) ∧
      (word <:+: prepare o now lineEnd t →
        word <:+: signed o d ∨ word <:+: besides timelineTag (signed o d)) := by
  intro o word d
  have hword : o.datePlaceholder = word := rfl
  have hm : IsBracketed word := ⟨"Date".toList, by decide, rfl⟩
  have hv : 'v' ∉ word := by
    show 'v' ∉ "[Date]".toList
    decide
  have hdate : dateText o now = Calendar.Stamp.slashed now.date := Calendar.Stamp.format_short now
  have hnone : ¬ word <:+: d := by
    rw [← hword] at hm hv ⊢
    refine not_infix_dated hm hv ?_ t
    rw [hdate]
    exact isWall_slashed hm now.date
  have hmessage : ¬ word <:+: o.signatures.invalidTableMessage :=
    (hm.isWall (isBare_literal (by decide))).not_isInfix
  have hinert : o.IsInert word := Options.isInert_standard hm
  obtain ⟨hkept, honly⟩ := infix_drawn hm hinert (signed o d)
  have hprepare : word <:+: prepare o now lineEnd t ↔ word <:+: drawn o (signed o d) :=
    infix_prepare_iff hm hinert (hword ▸ hm.ne_nil) now hl t
  refine ⟨hnone, infix_signed_iff hm hmessage hnone, ?_, ?_⟩
  · exact fun h => hprepare.2 (hkept h)
  · exact fun h => honly (hprepare.1 h)

/-- A manuscript with a placeholder, a blank block and a rule. -/
def datedNote : Text := "Signed [Date]\n\n```signatures\n\n```\n\n----\n".toList

/-- Its placeholder is replaced, and none is put together. -/
theorem placeholder_prepare_datedNote :
    let o : Options Rat := Options.standard
    let now : Instant := ⟨63872530200000000, by decide⟩
    "[Date]".toList <:+: datedNote ∧
      ¬ "[Date]".toList <:+: prepare o now ['\r', '\n'] datedNote := by
  intro o now
  refine ⟨by decide +kernel, fun h => ?_⟩
  have hsigned : ¬ "[Date]".toList <:+: signed o (dated o now datedNote) := by
    decide +kernel
  have hbesides : ¬ "[Date]".toList <:+:
      besides timelineTag (signed o (dated o now datedNote)) := by
    decide +kernel
  have hlast := (placeholder_prepare (α := Rat) now (Or.inr rfl) datedNote).2.2.2 h
  exact hlast.elim hsigned hbesides

/-- A label with a word in bold between brackets. -/
def boldLabel : Text := "```signatures\n|F|A|\n|--|--|\n|[**Date**]|x|\n```".toList

/-- A blank block between the parts of a placeholder. -/
def blankBlock : Text := "[Da```signatures\n```te]".toList

/-- Neither manuscript has a placeholder, and both have one when they are prepared. -/
theorem placeholder_prepare_formed :
    let o : Options Rat := Options.standard
    let now : Instant := ⟨63872530200000000, by decide⟩
    (¬ "[Date]".toList <:+: boldLabel ∧
        "[Date]".toList <:+: prepare o now ['\n'] boldLabel) ∧
      ¬ "[Date]".toList <:+: blankBlock ∧
        "[Date]".toList <:+: prepare o now ['\n'] blankBlock := by
  decide +kernel

end Prepress.Manuscript
