/-
# What a signature block is written with

The names of the fields and the markup of a block are written with the characters of the block and
plain characters (`within_of_mem_cells`, `within_render`).
-/
import Prepress.Proofs.Markup.References
import Prepress.Proofs.Markup.Values
import Prepress.Proofs.Signature.Reading
import Prepress.Signature.Html

namespace Prepress.Signature

open Text Markup

/-! ## Characters of names -/

section Characters

variable {P : Char → Prop}

theorem within_columnComponent (hP : ∀ c, IsPlain c → P c) {column : Text} (index : Int)
    (hc : Within P column) : Within P (Field.columnComponent column index) := by
  have hcol : Within IsPlain "Col".toList := by decide
  rw [Field.columnComponent]
  split
  · exact within_append.2 ⟨hcol.imp hP, (within_ofInt index).imp hP⟩
  · exact hc.sublist (compact_sublist column)

theorem within_identifier (hP : ∀ c, IsPlain c → P c) {title column label : Text}
    (ht : Within P title) (hc : Within P column) (hl : Within P label) :
    Within P (Field.identifier title column label) := by
  have hline : Within P ['_'] := within_cons.2 ⟨hP '_' (by decide), within_nil⟩
  have hlabel : Within P (Field.labelComponent label) :=
    hl.sublist (List.filter_sublist.trans (compact_sublist label))
  rw [Field.identifier]
  simp only [within_append]
  exact ⟨⟨⟨⟨ht.sublist (compact_sublist title), hline⟩, hc.sublist (compact_sublist column)⟩,
    hline⟩, hlabel⟩

/-- A cell of a row stands under a signatory with one of the row's values, and its name is made of
the section's title, the signatory and the row's label. -/
theorem exists_of_mem_cells {untitled : Text} {s : Section} {row : Row} {c : Cell}
    (hc : c ∈ s.cells untitled row) :
    c.value ∈ row.values ∧ ∃ column ∈ s.signatories, ∃ index : Nat,
      c.fieldName = Field.identifier (s.fieldTitle untitled)
        (Field.columnComponent column index) row.label := by
  obtain ⟨⟨⟨column, value⟩, index⟩, hmem, rfl⟩ := List.mem_map.1 hc
  have hzip : (column, value) ∈ s.signatories.zip row.values := by
    have hpairs := List.mem_map_of_mem (f := Prod.fst) hmem
    rwa [List.zipIdx_map_fst] at hpairs
  obtain ⟨hcolumn, hvalue⟩ := List.of_mem_zip hzip
  exact ⟨hvalue, column, hcolumn, index, rfl⟩

/-- A cell's value is taken from its section, and its name from the section's texts. -/
theorem within_of_mem_cells (hP : ∀ c, IsPlain c → P c) {untitled : Text} {s : Section}
    {row : Row} {c : Cell} (hu : Within P untitled) (hs : s.IsWithin P) (hr : row ∈ s.rows)
    (hc : c ∈ s.cells untitled row) : Within P c.fieldName ∧ Within P c.value := by
  have htitle : Within P (s.fieldTitle untitled) := by
    rw [Section.fieldTitle]
    split
    · next d t ht => exact hs.title (d :: t) ht
    · exact hu
  obtain ⟨hvalue, column, hcolumn, index, hname⟩ := exists_of_mem_cells hc
  have hcol : Within P column := hs.headers column (List.mem_of_mem_drop hcolumn)
  rw [hname]
  exact ⟨within_identifier hP htitle (within_columnComponent hP index hcol) (hs.labels row hr),
    hs.values row hr c.value hvalue⟩

/-! ## Characters of the markup -/

theorem within_cellHtml (hP : ∀ c, IsPlain c → P c) (options : Options) (label : Text)
    {c : Cell} (hname : Within P c.fieldName) (hvalue : Within P c.value) :
    Within P (Cell.html options label c) := by
  unfold Cell.html
  split
  · have hkind : ∀ b : Prop, [Decidable b] →
        Within P (if b then "signature-field" else "text-field").toList := by
      intro b _
      split <;> exact within_plain hP (by decide)
    have hheight := fun n : Int => within_of_isPlain hP (within_ofInt n)
    exact (((((((((within_plain hP (by decide)).append (within_plain hP (by decide))).append
      (within_plain hP (by decide))).append (within_escape hP hname)).append
      (within_plain hP (by decide))).append (hkind _)).append (within_plain hP (by decide))).append
      (hheight _)).append (within_plain hP (by decide))).append (within_plain hP (by decide))
  · exact ((((((within_plain hP (by decide)).append (within_plain hP (by decide))).append
      (within_plain hP (by decide))).append (within_escape hP hname)).append
      (within_plain hP (by decide))).append (within_escape hP hvalue)).append
      (within_plain hP (by decide))

theorem within_headerHtml (hP : ∀ c, IsPlain c → P c) {header : Text} (h : Within P header) :
    Within P (headerHtml header) := by
  have hcontent : Within P (if header.isEmpty then "&nbsp;".toList else escape header) := by
    split
    · exact within_plain hP (by decide)
    · exact within_escape hP h
  exact ((((within_plain hP (by decide)).append (within_plain hP (by decide))).append
    (within_plain hP (by decide))).append hcontent).append (within_plain hP (by decide))

theorem within_labelHtml (hP : ∀ c, IsPlain c → P c) {label : Text} (h : Within P label) :
    Within P (labelHtml label) :=
  ((((within_plain hP (by decide)).append (within_plain hP (by decide))).append
    (within_plain hP (by decide))).append (within_escape hP h)).append (within_plain hP (by decide))

/-- A table is written with the characters of its section, plain characters and line feeds. -/
theorem Section.within_tableHtml (hP : ∀ c, IsPlain c → P c) (hn : P '\n') {options : Options}
    (hu : Within P options.untitledSection) {s : Section} (hs : s.IsWithin P) :
    Within P (s.tableHtml options) := by
  have hrow : ∀ row ∈ s.rows, ∀ l ∈ rowLines options s row, Within P l := by
    intro row hr l hl
    simp only [rowLines, List.mem_append, List.mem_cons, List.not_mem_nil, or_false,
      List.mem_map, -String.reduceToList] at hl
    rcases hl with ((hl | hl) | ⟨c, hc, rfl⟩) | hl
    · exact hl ▸ within_plain hP (by decide)
    · exact hl ▸ within_labelHtml hP (hs.labels row hr)
    · obtain ⟨hname, hvalue⟩ := within_of_mem_cells hP hu hs hr hc
      exact within_cellHtml hP options row.label hname hvalue
    · exact hl ▸ within_plain hP (by decide)
  refine within_join (within_cons.2 ⟨hn, within_nil⟩) ?_
  intro l hl
  simp only [tableLines, List.mem_append, List.mem_cons, List.not_mem_nil, or_false,
    List.mem_map, List.mem_flatMap, -String.reduceToList] at hl
  rcases hl with ((((hl | hl) | ⟨h, hh, rfl⟩) | (hl | hl)) | ⟨row, hr, hl⟩) | (hl | hl)
  · exact hl ▸ within_plain hP (by decide)
  · exact hl ▸ within_plain hP (by decide)
  · exact within_headerHtml hP (hs.headers h hh)
  · exact hl ▸ within_plain hP (by decide)
  · exact hl ▸ within_plain hP (by decide)
  · exact hrow row hr l hl
  · exact hl ▸ within_plain hP (by decide)
  · exact hl ▸ within_plain hP (by decide)

/-- A block is written with its own characters, those of the options, plain characters and line
feeds. -/
theorem within_render (hP : ∀ c, IsPlain c → P c) (hn : P '\n') {options : Options}
    (hu : Within P options.untitledSection) (hm : Within P options.invalidTableMessage)
    {text : Text} (ht : Within P text) : Within P (render options text) := by
  have hpart : ∀ s ∈ readBlock text, ∀ l ∈ s.parts options, Within P l := by
    intro s hs l hl
    have hw : s.IsWithin P := isWithin_of_mem_readBlock hs hn ht
    simp only [Section.parts, List.mem_append, Option.mem_toList, Option.map_eq_some_iff,
      List.mem_cons, List.not_mem_nil, or_false] at hl
    rcases hl with ⟨title, htitle, rfl⟩ | rfl
    · exact ((within_plain hP (by decide)).append
        (within_escape hP (hw.title title htitle))).append (within_plain hP (by decide))
    · split
      · exact Section.within_tableHtml hP hn hu hw
      · exact hm
  rw [render]
  split
  · exact within_nil
  · rw [sectionsHtml, within_append]
    refine ⟨within_join (within_cons.2 ⟨hn, within_nil⟩) ?_, within_cons.2 ⟨hn, within_nil⟩⟩
    intro l hl
    simp only [List.mem_append, List.mem_cons, List.not_mem_nil, or_false, List.mem_flatMap,
      -String.reduceToList] at hl
    rcases hl with (hl | ⟨s, hs, hl⟩) | hl
    · exact hl ▸ within_plain hP (by decide)
    · exact hpart s hs l hl
    · exact hl ▸ within_plain hP (by decide)

end Characters

end Prepress.Signature
