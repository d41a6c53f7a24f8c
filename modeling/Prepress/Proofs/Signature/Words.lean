/-
# Words in the markup of a signature block

Titles, headers and values are shown as they stand in the block.  Labels are shown in their plain
form, and the names of fields without blanks, so these two may show what does not stand in the
block: a word in brackets that the block does not have is found in its markup exactly when a plain
label or the name of a field has it (`infix_render_iff`).
-/
import Prepress.Proofs.Markup.Words
import Prepress.Proofs.Signature.Html
import Prepress.Proofs.Signature.Inputs

namespace Prepress.Signature

open Text Markup

variable {mark : Text}

/-! ## Texts of a block -/

/-- A part of the lines of a section has no word in brackets that its block does not have. -/
theorem not_infix_of_isPartOf (hm : IsBracketed mark) {text : Text} (ht : ¬ mark <:+: text)
    {group : List Text} (hg : group ⊆ splitOn '\n' (normalizeNewlines text)) {t : Text}
    (h : IsPartOf (contentLines (join ['\n'] group)) t) : ¬ mark <:+: t := by
  obtain ⟨l, hl, hpart⟩ := h
  intro hi
  have hjoin := (hi.trans hpart).trans (isInfix_of_mem_contentLines hl)
  rw [infix_join_iff (hm.not_mem (by decide)) hm.ne_nil] at hjoin
  obtain ⟨k, hk, hi⟩ := hjoin
  refine ht ((infix_normalizeNewlines_iff (hm.not_mem (by decide)) (hm.not_mem (by decide)) _).1 ?_)
  exact hi.trans (isInfix_of_mem_splitOn (hg hk))

/-! ## Pieces of markup -/

theorem infix_titleHtml_iff (hm : IsBracketed mark) (title : Text) :
    mark <:+: titleHtml title ↔ mark <:+: title := by
  have hopen : IsBare "<h3 style=\"margin-top: 20px; margin-bottom: 10px;\">".toList :=
    isBare_literal (by decide)
  have hclose : IsBare "</h3>".toList := isBare_literal (by decide)
  exact (hm.infix_between_iff hopen hclose _).trans (infix_escape_iff hm title)

theorem infix_headerHtml_iff (hm : IsBracketed mark) (header : Text) :
    mark <:+: headerHtml header ↔ mark <:+: header := by
  have hopen : IsBare ("<th style=\"".toList ++ headerStyle ++ "\">".toList) :=
    (isBare_literal (by decide)).append (by decide) (isBare_literal (by decide))
  have hclose : IsBare "</th>".toList := isBare_literal (by decide)
  refine (hm.infix_between_iff hopen hclose _).trans ?_
  split
  · next h =>
      rw [List.isEmpty_iff.1 h, List.infix_nil]
      exact iff_of_false (hm.not_isInfix (by decide)) hm.ne_nil
  · exact infix_escape_iff hm header

theorem infix_labelHtml_iff (hm : IsBracketed mark) (label : Text) :
    mark <:+: labelHtml label ↔ mark <:+: label := by
  have hopen : IsBare ("<td style=\"".toList ++ cellStyle ++ "\"><strong>".toList) :=
    (isBare_literal (by decide)).append (by decide) (isBare_literal (by decide))
  have hclose : IsBare "</strong></td>".toList := isBare_literal (by decide)
  exact (hm.infix_between_iff hopen hclose _).trans (infix_escape_iff hm label)

/-- What follows the name of an input is fixed, but for the height of the input. -/
theorem isBare_inputRest (options : Options) (label : Text) :
    IsBare ('"' :: inputRest options label) := by
  have hkind : '[' ∉
      (if asksForSignature label then "signature-field" else "text-field").toList := by
    split <;> decide
  have hheight : ∀ n, '[' ∉ Text.ofInt n := not_mem_ofInt (by decide) (by decide)
  refine ⟨?_, ⟨'"', rfl, by decide⟩, '>', ?_, by decide⟩
  · unfold inputRest
    simp only [List.mem_cons, List.mem_append, not_or]
    exact ⟨by decide, ⟨⟨⟨⟨by decide, hkind⟩, by decide⟩, hheight _⟩, by decide⟩, by decide⟩
  · unfold inputRest
    rw [← List.cons_append, List.getLast?_append]
    rfl

/-- A cell shows the name of its field, and its value unless it is fillable. -/
theorem infix_cellHtml_iff (hm : IsBracketed mark) (options : Options) (label : Text) {c : Cell}
    (hv : ¬ mark <:+: c.value) :
    mark <:+: Cell.html options label c ↔ mark <:+: c.fieldName := by
  cases hf : c.isFillable with
  | true =>
      have hopen : IsBare ("<td style=\"".toList ++ inputCellStyle ++ "\">".toList) :=
        (isBare_literal (by decide)).append (by decide) (isBare_literal (by decide))
      have hinput : IsBare inputMark := isBare_literal (by decide)
      rw [cellHtml_of_isFillable options label hf, (hm.isWall hopen).infix_append_left_iff,
        ← List.append_assoc]
      exact (hm.infix_between_iff hinput (isBare_inputRest options label) _).trans
        (infix_escape_iff hm c.fieldName)
  | false =>
      have hopen : IsBare
          ("<td style=\"".toList ++ cellStyle ++ "\" data-field=\"".toList) :=
        (isBare_literal (by decide)).append (by decide) (isBare_literal (by decide))
      have hbetween : IsWall mark "\">".toList := hm.isWall (isBare_literal (by decide))
      have hclose : IsWall mark "</td>".toList := hm.isWall (isBare_literal (by decide))
      unfold Cell.html
      rw [if_neg (by simp [hf]), hclose.infix_append_right_iff, hbetween.infix_iff,
        (hm.isWall hopen).infix_append_left_iff, infix_escape_iff hm, infix_escape_iff hm]
      simp [hv]

/-! ## Tables -/

/-- A row has a mark in its plain label or in the name of a field. -/
def Section.RowHas (untitled mark : Text) (s : Section) (row : Row) : Prop :=
  mark <:+: row.label ∨ ∃ c ∈ s.cells untitled row, mark <:+: c.fieldName

/-- A row shows what its label and the names of its fields have. -/
theorem inLines_rowLines_iff (hm : IsBracketed mark) (options : Options) (s : Section) {row : Row}
    (hv : ∀ v ∈ row.values, ¬ mark <:+: v) :
    InLines mark (rowLines options s row) ↔ s.RowHas options.untitledSection mark row := by
  have hopen : ¬ mark <:+: "<tr>".toList := hm.not_isInfix (by decide)
  have hclose : ¬ mark <:+: "</tr>".toList := hm.not_isInfix (by decide)
  have hcells : InLines mark ((s.cells options.untitledSection row).map
      (Cell.html options row.label)) ↔
        ∃ c ∈ s.cells options.untitledSection row, mark <:+: c.fieldName := by
    rw [inLines_map]
    refine exists_congr fun c => and_congr_right fun hc => ?_
    exact infix_cellHtml_iff hm options row.label (hv c.value (exists_of_mem_cells hc).1)
  unfold rowLines Section.RowHas
  rw [inLines_append, inLines_append, hcells, inLines_cons, inLines_cons, inLines_cons,
    infix_labelHtml_iff hm]
  simp [hopen, hclose, -String.reduceToList]

/-- A table shows what its rows have. -/
theorem infix_tableHtml_iff (hm : IsBracketed mark) (options : Options) {s : Section}
    (hh : ∀ h ∈ s.headers, ¬ mark <:+: h)
    (hv : ∀ row ∈ s.rows, ∀ v ∈ row.values, ¬ mark <:+: v) :
    mark <:+: s.tableHtml options ↔
      ∃ row ∈ s.rows, s.RowHas options.untitledSection mark row := by
  have hheaders : ¬ InLines mark (s.headers.map headerHtml) := by
    rw [inLines_map]
    rintro ⟨h, hmem, hi⟩
    exact hh h hmem ((infix_headerHtml_iff hm h).1 hi)
  have hrows : InLines mark (s.rows.flatMap (rowLines options s)) ↔
      ∃ row ∈ s.rows, s.RowHas options.untitledSection mark row := by
    rw [inLines_flatMap]
    exact exists_congr fun row => and_congr_right fun hr =>
      inLines_rowLines_iff hm options s (hv row hr)
  have hbegin : ¬ InLines mark
      ["<table style=\"width: 100%; border-collapse: collapse; margin-bottom: 20px;\">".toList,
        "<thead><tr>".toList] := hm.not_inLines (by decide)
  have hbetween : ¬ InLines mark ["</tr></thead>".toList, "<tbody>".toList] :=
    hm.not_inLines (by decide)
  have hend : ¬ InLines mark ["</tbody>".toList, "</table>".toList] :=
    hm.not_inLines (by decide)
  rw [Section.tableHtml, infix_join_iff (hm.not_mem (by decide)) hm.ne_nil]
  unfold tableLines
  rw [inLines_append, inLines_append, inLines_append, inLines_append, hrows, or_iff_left hend,
    or_iff_right]
  rintro ((h | h) | h)
  · exact hbegin h
  · exact hheaders h
  · exact hbetween h

/-! ## Blocks -/

/-- A section that could be read has a mark in a plain label or in the name of a field. -/
def Section.Has (untitled mark : Text) (s : Section) : Prop :=
  s.isValid = true ∧ ∃ row ∈ s.rows, s.RowHas untitled mark row

/-- A section shows what its rows have, if it could be read. -/
theorem inLines_parts_iff (hm : IsBracketed mark) {options : Options}
    (hmessage : ¬ mark <:+: options.invalidTableMessage) {s : Section}
    (ht : ∀ t ∈ s.title, ¬ mark <:+: t) (hh : ∀ h ∈ s.headers, ¬ mark <:+: h)
    (hv : ∀ row ∈ s.rows, ∀ v ∈ row.values, ¬ mark <:+: v) :
    InLines mark (s.parts options) ↔ s.Has options.untitledSection mark := by
  have htitle : ¬ InLines mark (s.title.map titleHtml).toList := by
    cases h : s.title with
    | none => exact inLines_nil
    | some title =>
        rw [Option.map_some, Option.toList_some, inLines_cons, infix_titleHtml_iff hm]
        exact not_or.2 ⟨ht title h, inLines_nil⟩
  rw [Section.parts, inLines_append, or_iff_right htitle, inLines_cons, or_iff_left inLines_nil,
    Section.Has]
  cases s.isValid with
  | true => simpa using infix_tableHtml_iff hm options hh hv
  | false => simpa using hmessage

/-- A word in brackets that a block does not have is found in its markup exactly when a plain label
or the name of a field of a section that could be read has it. -/
theorem infix_render_iff (hm : IsBracketed mark) {options : Options}
    (hmessage : ¬ mark <:+: options.invalidTableMessage) {text : Text} (ht : ¬ mark <:+: text) :
    mark <:+: render options text ↔ ∃ s ∈ readBlock text, s.Has options.untitledSection mark := by
  rw [render]
  split
  · next h =>
      rw [readBlock_of_isAllBlank h, List.infix_nil]
      simp [hm.ne_nil]
  · have hparts : InLines mark ((readBlock text).flatMap (Section.parts options)) ↔
        ∃ s ∈ readBlock text, s.Has options.untitledSection mark := by
      rw [inLines_flatMap]
      refine exists_congr fun s => and_congr_right fun hs => ?_
      -- the title, the headers and the values stand in the block, which does not have the word
      obtain ⟨group, hgroup, hfrom⟩ := isTakenFrom_of_mem_readBlock hs
      have hpart := fun t => not_infix_of_isPartOf hm ht hgroup (t := t)
      exact inLines_parts_iff hm hmessage (fun t h => hpart t (hfrom.title t h))
        (fun t h => hpart t (hfrom.headers t h))
        (fun row hr v hv => hpart v ((hfrom.rows row hr).values v hv))
    have hopen : ¬ InLines mark [blockOpenTag] := hm.not_inLines (by decide)
    have hclose : ¬ InLines mark ["</div>".toList] := hm.not_inLines (by decide)
    rw [sectionsHtml, infix_concat_iff (hm.not_mem (by decide)) hm.ne_nil,
      infix_join_iff (hm.not_mem (by decide)) hm.ne_nil, inLines_append, inLines_append,
      or_iff_left hclose, or_iff_right hopen, hparts]

/-- What takes the place of a block that is not blank begins and ends with signs of markup. -/
theorem isEnclosed_render (hm : IsBracketed mark) (options : Options) {text : Text}
    (hb : isAllBlank text = false) : IsEnclosed mark (render options text) := by
  have hhead : (sectionsHtml options (readBlock text)).head? = some '<' := by
    rw [sectionsHtml, join_append (by simp), List.append_assoc, List.singleton_append,
      List.flatMap_cons]
    rfl
  obtain ⟨r, hr⟩ := List.head?_eq_some_iff.1 hhead
  rw [render, if_neg (by simp [hb])]
  exact ⟨⟨'<', r, hr, hm.not_mem (by decide)⟩, _, '\n', rfl, hm.not_mem (by decide)⟩

end Prepress.Signature
