/-
# The inputs of a signature block

A reader of the markup finds inputs by their tag.  Every fillable cell has one input, whose name is
the name of the cell's field, and nothing else in a block has one:

* `inputNames_tableHtml` : the inputs of a table are those of its fillable cells, row by row;
* `inputNames_render` : the inputs of a block are its form fields;
* `render_inputs` : a message without the beginning of an input does not change them.
-/
import Prepress.Proofs.Markup.References
import Prepress.Proofs.Markup.Values
import Prepress.Proofs.Signature.Reading
import Prepress.Proofs.Text.Occurrence
import Prepress.Signature.Html

namespace Prepress.Signature

open Text Markup

/-! ## Inputs in markup -/

/-- What stands before the name of an input. -/
def inputMark : Text := "<input type=\"text\" name=\"".toList

/-- The names of the inputs in a text, as a reader reads them. -/
def inputNames (refs : References) (t : Text) : List Text :=
  (valuesAfter inputMark '"' t).map refs.decode

/-- A text adds certain inputs, by their escaped names. -/
abbrev AddsInputs (names : List Text) (t : Text) : Prop := Adds inputMark '"' names t

/-- A text without an opening bracket adds no input. -/
theorem addsInputs_of_not_mem {t : Text} (h : '<' ∉ t) : AddsInputs [] t :=
  adds_of_head (c := '<') (by rfl) h

theorem addsInputs_escape (t : Text) : AddsInputs [] (escape t) :=
  addsInputs_of_not_mem (not_mem_escape (by simp) t)

/-! ## Cells -/

/-- The names of the form fields of some cells. -/
def fillableNames (cells : List Cell) : List Text :=
  (cells.filter Cell.isFillable).map Cell.fieldName

/-- What stands in a fillable cell after the name of its input. -/
def inputRest (options : Options) (label : Text) : Text :=
  let kind := if asksForSignature label then "signature-field" else "text-field"
  let height :=
    if asksForSignature label then options.signatureFieldHeight else options.fieldHeight
  " class=\"".toList ++ kind.toList ++ "\" style=\"width: 95%; height: ".toList
    ++ Text.ofInt height ++ "px; border: none; background: transparent; ".toList
    ++ "font-size: 10pt; padding: 2px;\" /></td>".toList

theorem cellHtml_of_isFillable (options : Options) (label : Text) {c : Cell}
    (h : c.isFillable = true) :
    Cell.html options label c
      = ("<td style=\"".toList ++ inputCellStyle ++ "\">".toList)
        ++ (inputMark ++ (escape c.fieldName ++ '"' :: inputRest options label)) := by
  have hmark : "\"><input type=\"text\" name=\"".toList = "\">".toList ++ inputMark :=
    literal_eq_append (by rfl)
  have hquote : "\" class=\"".toList = '"' :: " class=\"".toList := literal_eq_cons (by rfl)
  unfold Cell.html inputRest
  rw [if_pos h, hmark, hquote]
  simp only [List.append_assoc, List.cons_append]

theorem addsInputs_inputRest (options : Options) (label : Text) :
    AddsInputs [] ('"' :: inputRest options label) := by
  have hkind : AddsInputs []
      (if asksForSignature label then "signature-field" else "text-field").toList := by
    split <;> exact adds_literal (by decide)
  have hheight : ∀ n, AddsInputs [] (Text.ofInt n) :=
    fun n => addsInputs_of_not_mem (not_mem_ofInt (by decide) (by decide) n)
  rw [← List.singleton_append]
  refine (addsInputs_of_not_mem (t := ['"']) (by decide)).append ?_
  exact (((((adds_literal (by decide)).append hkind).append
    (adds_literal (by decide))).append (hheight _)).append
    (adds_literal (by decide))).append (adds_literal (by decide))

/-- A fillable cell has one input, and any other cell has none. -/
theorem addsInputs_cellHtml (options : Options) (label : Text) (c : Cell) :
    AddsInputs ((fillableNames [c]).map escape) (Cell.html options label c) := by
  cases hf : c.isFillable with
  | true =>
      have hnames : (fillableNames [c]).map escape = [] ++ [escape c.fieldName] := by
        simp [fillableNames, hf]
      rw [hnames, cellHtml_of_isFillable options label hf]
      refine (((adds_literal (by decide)).append (adds_literal (by decide))).append
        (adds_literal (by decide))).append ?_
      refine adds_mark String.toList_ofList (by decide) (not_mem_escape (by simp) _) ?_
      exact (addsInputs_escape _).append (addsInputs_inputRest options label)
  | false =>
      have hnames : (fillableNames [c]).map escape = [] := by
        simp [fillableNames, hf]
      unfold Cell.html
      rw [hnames, if_neg (by simp [hf])]
      exact ((((((adds_literal (by decide)).append (adds_literal (by decide))).append
        (adds_literal (by decide))).append (addsInputs_escape _)).append
        (adds_literal (by decide))).append (addsInputs_escape _)).append
        (adds_literal (by decide))

theorem fillableNames_eq_flatMap (cells : List Cell) :
    cells.flatMap (fun c => fillableNames [c]) = fillableNames cells := by
  induction cells with
  | nil => rfl
  | cons c cells ih =>
      rw [List.flatMap_cons, ih, fillableNames, fillableNames, fillableNames, ← List.map_append,
        ← List.filter_append, List.singleton_append]

/-! ## Tables -/

theorem addsInputs_headerHtml (header : Text) : AddsInputs [] (headerHtml header) := by
  have hcontent : AddsInputs [] (if header.isEmpty then "&nbsp;".toList else escape header) := by
    split
    · exact adds_literal (by decide)
    · exact addsInputs_escape header
  exact ((((adds_literal (by decide)).append (adds_literal (by decide))).append
    (adds_literal (by decide))).append hcontent).append (adds_literal (by decide))

theorem addsInputs_labelHtml (label : Text) : AddsInputs [] (labelHtml label) :=
  ((((adds_literal (by decide)).append (adds_literal (by decide))).append
    (adds_literal (by decide))).append (addsInputs_escape label)).append
    (adds_literal (by decide))

/-- The names of the form fields of a section. -/
def Section.fillableNames (untitled : Text) (s : Section) : List Text :=
  s.rows.flatMap fun row => Signature.fillableNames (s.cells untitled row)

theorem addsLines_rowLines (options : Options) (s : Section) (row : Row) :
    AddsLines inputMark '"'
      ((fillableNames (s.cells options.untitledSection row)).map escape)
      (rowLines options s row) := by
  have hopen : AddsInputs [] "<tr>".toList := adds_literal (by decide)
  have hclose : AddsInputs [] "</tr>".toList := adds_literal (by decide)
  have hcells := AddsLines.map (addsInputs_cellHtml options row.label)
    (s.cells options.untitledSection row)
  rw [← List.map_flatMap, fillableNames_eq_flatMap] at hcells
  have hall := ((AddsLines.cons hopen (.single (addsInputs_labelHtml row.label))).append
    hcells).append (.single hclose)
  rwa [List.append_nil] at hall

/-- A table has the inputs of its fillable cells, row by row. -/
theorem addsInputs_tableHtml (options : Options) (s : Section) :
    AddsInputs ((s.fillableNames options.untitledSection).map escape) (s.tableHtml options) := by
  have hheaders : AddsLines inputMark '"' [] (s.headers.map headerHtml) := by
    have := AddsLines.map addsInputs_headerHtml s.headers
    rwa [List.flatMap_eq_nil_iff.2 fun _ _ => rfl] at this
  have hrows := AddsLines.flatMap (l := s.rows) fun row _ => addsLines_rowLines options s row
  rw [← List.map_flatMap] at hrows
  have hall : AddsLines inputMark '"'
      ([] ++ [] ++ [] ++ (s.fillableNames options.untitledSection).map escape ++ [])
      (tableLines options s) :=
    ((((AddsLines.pair (adds_literal (by decide)) (adds_literal (by decide))).append
      hheaders).append
      (.pair (adds_literal (by decide)) (adds_literal (by decide)))).append hrows).append
      (.pair (adds_literal (by decide)) (adds_literal (by decide)))
  simp only [List.append_nil, List.nil_append] at hall
  exact hall.join (addsInputs_of_not_mem (by decide))

/-- The inputs of a table are those of its fillable cells, row by row. -/
theorem inputNames_tableHtml (refs : References) (options : Options) (s : Section) :
    inputNames refs (s.tableHtml options) = s.fillableNames options.untitledSection := by
  rw [inputNames, (addsInputs_tableHtml options s).valuesAfter_eq, List.map_map]
  have hid : refs.decode ∘ escape = id := funext refs.decode_escape
  rw [hid, List.map_id]

/-! ## Blocks -/

/-- The form fields of some sections are those of the sections that could be read. -/
theorem fieldNames_eq_flatMap (untitled : Text) (sections : List Section) :
    fieldNames untitled sections
      = (sections.filter Section.isValid).flatMap (Section.fillableNames untitled) :=
  rfl

/-- A section adds the inputs of its table, if it could be read, and else nothing, as long as the
message that takes the place of the table has no input. -/
theorem addsInputs_parts {options : Options} (hm : ¬ inputMark <:+: options.invalidTableMessage)
    (s : Section) :
    AddsInputs ((fieldNames options.untitledSection [s]).map escape)
      ((s.parts options).flatMap (· ++ ['\n'])) := by
  have hend : AddsInputs [] ['\n'] := addsInputs_of_not_mem (by decide)
  have htitle : AddsInputs [] ((s.title.map titleHtml).toList.flatMap (· ++ ['\n'])) := by
    cases s.title with
    | none => exact adds_nil
    | some title =>
        rw [Option.map_some, Option.toList_some, List.flatMap_singleton]
        exact (((adds_literal (by decide)).append (addsInputs_escape title)).append
          (adds_literal (by decide))).append hend
  have htable : AddsInputs ((fieldNames options.untitledSection [s]).map escape)
      ((if s.isValid then s.tableHtml options else options.invalidTableMessage) ++ ['\n']) := by
    cases hv : s.isValid with
    | true =>
        have hnames : fieldNames options.untitledSection [s]
            = s.fillableNames options.untitledSection := by
          simp [fieldNames_eq_flatMap, hv]
        have hadds := (addsInputs_tableHtml options s).append hend
        rw [List.append_nil] at hadds
        rw [hnames]
        exact hadds
    | false =>
        have hnames : fieldNames options.untitledSection [s] = [] := by
          simp [fieldNames_eq_flatMap, hv]
        rw [hnames]
        exact adds_line (by decide) hm
  rw [Section.parts, List.flatMap_append, List.flatMap_singleton]
  exact htitle.append htable

theorem fieldNames_append (untitled : Text) (a b : List Section) :
    fieldNames untitled (a ++ b) = fieldNames untitled a ++ fieldNames untitled b := by
  rw [fieldNames, List.filter_append, List.flatMap_append]
  rfl

theorem flatMap_fieldNames (untitled : Text) (sections : List Section) :
    sections.flatMap (fun s => fieldNames untitled [s]) = fieldNames untitled sections := by
  induction sections with
  | nil => rfl
  | cons s sections ih =>
      rw [List.flatMap_cons, ih, ← fieldNames_append, List.singleton_append]

/-- Sections have the inputs of their form fields. -/
theorem addsInputs_sectionsHtml {options : Options}
    (hm : ¬ inputMark <:+: options.invalidTableMessage) (sections : List Section) :
    AddsInputs ((fieldNames options.untitledSection sections).map escape)
      (sectionsHtml options sections) := by
  have hend : AddsInputs [] ['\n'] := addsInputs_of_not_mem (by decide)
  have hopen : AddsInputs [] blockOpenTag := adds_literal (by decide)
  have hclose : AddsInputs [] "</div>".toList := adds_literal (by decide)
  have hparts := adds_flatMap (l := sections) fun s _ => addsInputs_parts hm s
  rw [← List.map_flatMap, flatMap_fieldNames] at hparts
  have hall := ((hopen.append hend).append hparts).append (hclose.append hend)
  rw [sectionsHtml, join_append (by simp), List.flatMap_append, List.flatMap_append,
    List.flatMap_singleton, List.flatMap_singleton, List.flatMap_assoc]
  simp only [List.append_nil, List.nil_append] at hall
  exact hall

/-- A blank block has no section. -/
theorem readBlock_of_isAllBlank {text : Text} (h : isAllBlank text = true) :
    readBlock text = [] := by
  rw [isAllBlank, List.all_eq_true] at h
  rw [readBlock, List.filterMap_eq_nil_iff]
  intro part hpart
  obtain ⟨group, hgroup, rfl⟩ := List.mem_map.1 hpart
  have hnorm : Within (isBlank · = true) (normalizeNewlines text) := by
    intro c hc
    by_cases hn : c = '\n'
    · rw [hn]
      decide
    · exact h c (mem_of_mem_normalizeNewlines hc hn)
  have hblank : Within (isBlank · = true) (join ['\n'] group) := by
    refine within_join (by decide) ?_
    intro l hl
    exact hnorm.sublist (sublist_of_mem_splitOn (mem_of_mem_groupLines hgroup hl))
  have hlines : contentLines (join ['\n'] group) = [] := by
    rw [contentLines, List.filterMap_eq_nil_iff]
    intro l hl
    rw [if_pos]
    rw [isAllBlank, List.all_eq_true]
    exact hblank.sublist (sublist_of_mem_lines hl)
  rw [Section.read?, hlines]

/-- The inputs of a block are its form fields, as long as the message that takes the place of a
table has no input. -/
theorem inputNames_render (refs : References) {options : Options}
    (hm : ¬ inputMark <:+: options.invalidTableMessage) (text : Text) :
    inputNames refs (render options text) = blockFields options text := by
  rw [render, blockFields]
  split
  · next h =>
      rw [readBlock_of_isAllBlank h]
      rfl
  · have hid : refs.decode ∘ escape = id := funext refs.decode_escape
    rw [inputNames, (addsInputs_sectionsHtml hm _).valuesAfter_eq, List.map_map, hid, List.map_id]

/-- As long as the message for invalid tables does not begin an input, a reader of a block finds
the names of its form fields in their order, each as often as it has a field: no title, header,
label or value hides an input or forges one. -/
theorem render_inputs (refs : References) {options : Options}
    (hm : ¬ "<input".toList <:+: options.invalidTableMessage) (text : Text) :
    inputNames refs (render options text) = blockFields options text := by
  have hbegins : "<input".toList <:+: inputMark := by
    unfold inputMark
    decide
  exact inputNames_render refs (fun h => hm (hbegins.trans h)) text

/-- A section whose texts look like inputs, with a blank header, a field that occurs twice, a row
that is too long and one that is too short, and a section without a table. -/
def tagLikeBlock : Text :=
  ("## \"<input type=\"text\" name=\"x\">\n|F||A & B|\n|--|--|\n"
    ++ "|\"><input|...|<input type=\"text\" name=\"y\">|\n|N| |. .|...|\n|N||\n|short|\n"
    ++ "---\nno table").toList

theorem render_inputs_tagLikeBlock :
    ¬ "<input".toList <:+: Options.standard.invalidTableMessage ∧
      inputNames (.ofNames []) (render Options.standard tagLikeBlock) =
        ["\"<inputtype=\"text\"name=\"x\">_Col1_\"><input".toList,
          "\"<inputtype=\"text\"name=\"x\">_Col1_N".toList,
          "\"<inputtype=\"text\"name=\"x\">_A&B_N".toList,
          "\"<inputtype=\"text\"name=\"x\">_Col1_N".toList] := by
  have hm : ¬ "<input".toList <:+: Options.standard.invalidTableMessage :=
    occursIn_eq_false_iff.1 (by decide)
  refine ⟨hm, ?_⟩
  rw [render_inputs (.ofNames []) hm tagLikeBlock]
  decide +kernel

end Prepress.Signature
