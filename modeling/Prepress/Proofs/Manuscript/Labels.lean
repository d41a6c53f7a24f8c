/-
# Labels of a manuscript

A manuscript that is a timeline block with one task shows one label.  Its content is the safe form
of the label that the manuscript has, escaped (`labelContents_prepare`).  So a reader of the markup
reads the safe form with the references that the surface has put there, which it would read as
characters outside of a block:

* `decode_label` : the label reads the same inside a block as outside exactly when reading
  references does not change its safe form;
* `decode_label_notEqual` : a label with a symbol that is spelled as a reference reads differently.
-/
import Prepress.Proofs.Manuscript.Passages
import Prepress.Proofs.Manuscript.Rule
import Prepress.Proofs.Manuscript.Stability
import Prepress.Proofs.Markup.SafeText
import Prepress.Proofs.Timeline.OneTask

namespace Prepress.Manuscript

open Text Markup Timeline

/-! ## Manuscripts of one block -/

/-- A timeline block with one section and one task. -/
def oneTaskBlock (label : Text) : Text :=
  "```timeline\nsection S\n".toList ++ (label ++ " :t1, 2025-01-01, 1d\n```".toList)

/-- The block as a passage. -/
def oneTaskPassage (label : Text) : Passage := ⟨.timeline, oneTaskText label, []⟩

theorem layout_oneTaskPassage (l : Text) :
    layout Passage.source [oneTaskPassage l] = oneTaskBlock l := by
  have hfirst : "```timeline\nsection S\n".toList
      = fence ++ timelineTag ++ '\n' :: "section S\n".toList := by
    decide
  have hlast : " :t1, 2025-01-01, 1d\n```".toList
      = " :t1, 2025-01-01, 1d".toList ++ '\n' :: fence := by
    decide
  have hassoc : ∀ a b c d : Text, a ++ '\n' :: (b ++ (l ++ c) ++ '\n' :: d)
      = a ++ '\n' :: b ++ (l ++ (c ++ '\n' :: d)) := by
    simp
  rw [layout_cons]
  show (oneTaskPassage l).source ++ [] = _
  unfold oneTaskBlock
  rw [List.append_nil, hfirst, hlast]
  exact hassoc _ _ _ _

theorem isLead_nil (ps : List Passage) : IsLead [] ps :=
  ⟨occursIn_eq_false_iff.1 (by decide), fun _ => by decide⟩

/-- The block is well fenced if there is no backtick in the label. -/
theorem wellFenced_oneTaskPassage {l : Text} (h : Char.ofNat 0x60 ∉ l) :
    WellFenced [oneTaskPassage l] := by
  have hbody : ¬ fence <:+: oneTaskText l := by
    intro hi
    have hmem : Char.ofNat 0x60 ∈ oneTaskText l := hi.subset (by decide)
    unfold oneTaskText at hmem
    rw [List.mem_append, List.mem_append] at hmem
    rcases hmem with hmem | hmem | hmem
    · exact absurd hmem (by decide)
    · exact h hmem
    · exact absurd hmem (by decide)
  exact ⟨hbody, atLineEnd_nil, isLead_nil [], trivial⟩

variable {α : Type} [Measure α]

/-- The block with its label made safe is what is rendered. -/
theorem dated_oneTaskBlock (now : Instant) {l : Text} (h : IsLabel standardDirectives l)
    (hdate : ¬ "[Date]".toList <:+: l) :
    dated (Options.standard : Options α) now (oneTaskBlock l)
      = oneTaskBlock (Surface.sanitize l) := by
  have hplaceholder : ¬ "[Date]".toList <:+: oneTaskBlock l := by
    intro hi
    unfold oneTaskBlock at hi
    have hnone : ∀ s, Nowhere ("[Date]".toList <+: ·) "```timeline\nsection S\n".toList s :=
      nowhere_of_head (c := '[') (by decide) (by decide)
    rw [infix_append_iff (hnone _)] at hi
    exact hdate (infix_of_infix_append (c := ']') (by decide) (by decide) hi)
  have hline : '\r' ∉ Surface.sanitize l := by
    intro hm
    have hbreak := (h.sanitize isKeyword_standardDirectives).within_line '\r' hm
    exact absurd hbreak (by decide)
  have hfirst : Within (Surface.isSafe · = true) "```timeline\nsection S\n".toList :=
    within_literal (by decide)
  have hlast : Within (Surface.isSafe · = true) " :t1, 2025-01-01, 1d\n```".toList :=
    within_literal (by decide)
  have hsanitize : Surface.sanitize (oneTaskBlock l) = oneTaskBlock (Surface.sanitize l) := by
    unfold oneTaskBlock
    rw [Surface.sanitize_append, Surface.sanitize_append, Surface.sanitize_eq_self hfirst,
      Surface.sanitize_eq_self hlast]
  have hreturn : '\r' ∉ oneTaskBlock (Surface.sanitize l) := by
    unfold oneTaskBlock
    rw [List.mem_append, List.mem_append, not_or, not_or]
    exact ⟨by decide, hline, by decide⟩
  have hreplace : replace (Options.standard : Options α).datePlaceholder
      (dateText (Options.standard : Options α) now) (oneTaskBlock l) = oneTaskBlock l :=
    replace_eq_self _ (occursIn_eq_false_iff.2 hplaceholder)
  rw [dated, hreplace, cleaned, hsanitize, normalizeNewlines_eq_self hreturn]

/-- Both passes make a drawing of the block, with its label. -/
theorem drawn_signed_oneTaskBlock [FitsCanvas α] {l : Text} (h : IsLabel standardDirectives l)
    (hfence : Char.ofNat 0x60 ∉ l) :
    let o : Options α := Options.standard
    ∃ d : Drawing α, drawn o (signed o (oneTaskBlock l)) = d.text ∧ d.labels = [l] ∧
      ∀ e ∈ d.elements, '\n' ∉ e := by
  intro o
  obtain ⟨d, hd, hlabels, helements⟩ := render_oneTask (α := α) h
  refine ⟨d, ?_, hlabels, helements⟩
  have hw := wellFenced_oneTaskPassage hfence
  have hinert : TablesAreInert o [oneTaskPassage l] :=
    ⟨fun hk => absurd hk (by simp [oneTaskPassage]), trivial⟩
  have hsigned := signed_source o (isLead_nil [oneTaskPassage l]) hw
  -- there is no table in which a block could begin
  have hdrawn := drawn_halfway o (isLead_nil [oneTaskPassage l]) hw hinert
  have hcontent : (oneTaskPassage l).content = oneTaskText l ++ ['\n'] := by
    have hbegin : ∀ t, trimStart ("section S\n".toList ++ t) = "section S\n".toList ++ t :=
      fun t => trimStart_cons (c := 's') (by decide) ("ection S\n".toList ++ t)
    rw [Passage.content]
    show trimStart (oneTaskText l ++ ['\n']) = _
    unfold oneTaskText
    rw [List.append_assoc, hbegin]
  have hresult : (oneTaskPassage l).result o = d.text := by
    show drawing o (oneTaskPassage l).content = _
    have htimeline : o.timeline = Timeline.Options.standard := rfl
    rw [hcontent, drawing, replacement, Piece.expand, htimeline, hd]
  have hlayout : layout (Passage.result o) [oneTaskPassage l] = d.text := by
    rw [layout_cons, hresult]
    exact List.append_nil _
  rw [List.nil_append, List.nil_append, layout_oneTaskPassage] at hsigned
  rw [List.nil_append, List.nil_append] at hdrawn
  rw [hsigned, hdrawn, hlayout]

/-! ## Labels -/

/-- The steps after the two passes leave a drawing alone but for its line ends. -/
theorem restored_replaceRules_text {o : Options α} (ho : o.restoreNewlines = true) {d : Drawing α}
    (hd : ∀ e ∈ d.elements, '\n' ∉ e) (lineEnd : Text) :
    restored o lineEnd (replaceRules o.pageBreakMarker d.text)
      = d.elements.flatMap (· ++ lineEnd) := by
  have htext : d.text = d.elements.flatMap (· ++ ['\n']) := join_append (by simp [Drawing.elements])
  have hrules : ∀ e ∈ d.elements, '\n' ∉ e ∧ isRule e = false :=
    fun e he => ⟨hd e he, isRule_eq_false (by decide) (by decide) (d.head?_of_mem_elements e he)⟩
  rw [htext, replaceRules_lines _ hrules, restored]
  by_cases hl : lineEnd = ['\n']
  · rw [if_neg (fun h => h.2 hl), hl]
  · rw [if_pos ⟨ho, hl⟩, replaceChar_lines hd]

/-- The prepared block has one label, the safe form of its label, escaped. -/
theorem labelContents_prepare [FitsCanvas α] (now : Instant) {lineEnd : Text}
    (he : lineEnd = ['\n'] ∨ lineEnd = ['\r', '\n']) {l : Text}
    (hl : IsLabel standardDirectives l) (hfence : Char.ofNat 0x60 ∉ l)
    (hdate : ¬ "[Date]".toList <:+: l) :
    labelContents (prepare (Options.standard : Options α) now lineEnd (oneTaskBlock l))
      = [escape (Surface.sanitize l)] := by
  have hsafe := hl.sanitize isKeyword_standardDirectives
  have hsafeFence : Char.ofNat 0x60 ∉ Surface.sanitize l :=
    fun h => hfence (Surface.mem_of_mem_sanitize (by decide) h)
  obtain ⟨d, hd, hlabels, helements⟩ := drawn_signed_oneTaskBlock (α := α) hsafe hsafeFence
  have hblock : oneTaskBlock l ≠ [] := by
    unfold oneTaskBlock
    exact List.append_ne_nil_of_left_ne_nil (by decide) _
  have hend : 'c' ∉ lineEnd := by
    rcases he with rfl | rfl <;> decide
  have ho : (Options.standard : Options α).restoreNewlines = true := rfl
  rw [prepare_of_ne_nil _ _ _ hblock, composed, dated_oneTaskBlock now hl hdate, hd,
    restored_replaceRules_text ho helements, labelContents_elements d hend, hlabels]
  rfl

/-- Every reader of the markup reads the safe form of the label.  It reads the same for the label
outside of blocks exactly when reading references does not change the safe form; a reader that knows
the references of the surface does not if there is one of them in it. -/
theorem decode_label [FitsCanvas α] (refs : References) (now : Instant) {lineEnd : Text}
    (he : lineEnd = ['\n'] ∨ lineEnd = ['\r', '\n']) {l : Text}
    (hl : IsLabel standardDirectives l) (hfence : Char.ofNat 0x60 ∉ l)
    (hdate : ¬ "[Date]".toList <:+: l) :
    ∃ content,
      labelContents (prepare (Options.standard : Options α) now lineEnd (oneTaskBlock l))
          = [content] ∧
        refs.decode content = Surface.sanitize l ∧
        (refs.decode content = refs.decode (Surface.sanitize l)
          ↔ refs.decode (Surface.sanitize l) = Surface.sanitize l) ∧
        (refs.ReadsSurface → (∃ c ∈ l, IsReferred c) →
          refs.decode content ≠ refs.decode (Surface.sanitize l)) := by
  have hread := refs.decode_escape (Surface.sanitize l)
  refine ⟨escape (Surface.sanitize l), labelContents_prepare now he hl hfence hdate, hread, ?_, ?_⟩
  · rw [hread]
    exact eq_comm
  · intro hr hreferred
    rw [hread]
    exact (References.decode_sanitize_ne hr hreferred).symm

theorem decode_label_arrow :
    ∃ content,
      labelContents (prepare (Options.standard : Options Float) ⟨0, by decide⟩ ['\n']
          (oneTaskBlock "Review →".toList)) = [content] ∧
        References.ofSurface.decode content
          = References.ofSurface.decode (Surface.sanitize "Review →".toList) := by
  have hl : IsLabel standardDirectives "Review →".toList :=
    ⟨by decide, by decide, by decide, by decide, by decide +kernel, by decide +kernel,
      by decide +kernel⟩
  obtain ⟨content, hcontent, -, hiff, -⟩ := decode_label (α := Float) References.ofSurface
    ⟨0, by decide⟩ (Or.inl rfl) hl (by decide) (occursIn_eq_false_iff.1 (by decide))
  exact ⟨content, hcontent, hiff.2 (by decide +kernel)⟩

/-- The reference that the surface writes for a symbol is escaped once more, and read as text. -/
theorem decode_label_notEqual :
    IsLabel standardDirectives ['≠'] ∧ Char.ofNat 0x60 ∉ ['≠'] ∧
      occursIn "[Date]".toList ['≠'] = false ∧
      labelContents (prepare (Options.standard : Options Float) ⟨0, by decide⟩ ['\n']
          (oneTaskBlock ['≠'])) = ["&amp;ne;".toList] ∧
        References.ofSurface.decode "&amp;ne;".toList = "&ne;".toList ∧
        References.ofSurface.decode (Surface.sanitize ['≠']) = ['≠'] := by
  have hl : IsLabel standardDirectives ['≠'] :=
    ⟨by decide, by decide, by decide, by decide, by decide +kernel, by decide +kernel,
      by decide +kernel⟩
  have hdate : occursIn "[Date]".toList ['≠'] = false := by decide
  have hcontent := labelContents_prepare (α := Float) ⟨0, by decide⟩ (Or.inl rfl) hl (by decide)
    (occursIn_eq_false_iff.1 hdate)
  have hescape : escape (Surface.sanitize ['≠']) = "&amp;ne;".toList := by decide +kernel
  rw [hescape] at hcontent
  exact ⟨hl, by decide, hdate, hcontent, by decide +kernel, by decide +kernel⟩

end Prepress.Manuscript
