/-
# Reading the markup of a signature block

The markup of a block is read part by part, with the texts of the block in it:

* `shows_cellHtml`, `shows_headerHtml`, `shows_labelHtml` : every part shows its texts, whatever
  they are, and its tags are told by its shape;
* `shows_sectionsHtml` : so it is with sections one after the other;
* `render_of_shapes` : the tags and the contents of a block;
* `skeleton_of_shapes_false` : that a block is blank is not seen from the shapes of its sections.
-/
import Prepress.Proofs.Signature.Contents
import Prepress.Proofs.Signature.Inputs

namespace Prepress.Signature

open Text Markup

/-! ## Cells -/

section Cells

variable {refs : References}

theorem isSilent_cellTag : IsSilent (cellTag cellStyle) :=
  isSilent_styledTag rfl (by decide) (by decide) (by decide) (by decide)

theorem isSilent_inputCellTag : IsSilent (cellTag inputCellStyle) :=
  isSilent_styledTag rfl (by decide) (by decide) (by decide) (by decide)

theorem isSilent_cellEnd : IsSilent "</td>".toList :=
  isSilent_literal rfl rfl (by decide) (by decide) (by decide)

theorem within_escape_valueChar (t : Text) : Within IsValueChar (escape t) := by
  intro c hc hmem
  simp only [List.mem_cons, List.not_mem_nil, or_false] at hmem
  rcases hmem with rfl | rfl
  · exact not_mem_escape (by simp) t hc
  · exact not_mem_escape (by simp) t hc

/-- The tag of a cell that shows a value gives away the name of its field and nothing else. -/
theorem shows_valueTag (name value : Text) :
    Shows refs [valueTag []] [.value name value] (valueTag (escape name) ++ escape value) := by
  have hpieces : ∀ p ∈ ["<td style=".toList, cellStyle, " data-field=".toList, escape name],
      Within IsValueChar p := by
    simp only [List.forall_mem_cons]
    exact ⟨by decide, by decide, by decide, within_escape_valueChar name, by simp⟩
  have hattribute : attribute? valueKey (valueTag (escape name)) = some (escape name) := by
    rw [attribute?, valueTag, attributes_quotedTag hpieces within_nil]
    rfl
  have hcontent : contentOf? refs ⟨valueTag (escape name), escape value⟩
      = some (.value name value) := by
    rw [contentOf?, show tagName (valueTag (escape name)) = "td".toList from rfl, hattribute]
    simp only [refs.decode_escape, Option.map_some]
    rfl
  have hblank : blankName (valueTag (escape name)) = valueTag [] := by
    rw [blankName, valueTag, blankValues_quotedTag hpieces within_nil]
    rfl
  rw [← hblank]
  exact shows_tag (isTag_quotedTag hpieces within_nil rfl) (not_mem_escape (by simp) value) hcontent
    (by simp [Content.text?])

/-- The tag of an input gives away the name of its field and nothing else. -/
theorem shows_inputTag (options : Options) (signature : Bool) (name : Text) :
    Shows refs [inputTag options signature []] [.input name]
      (inputTag options signature (escape name)) := by
  have hkind : Within IsValueChar (inputKind signature) := by
    cases signature <;> decide
  have hstyle : Within IsValueChar (inputStyle options signature) := by
    have hnumber : ∀ n, Within IsValueChar (Text.ofInt n) := by
      intro n c hc hmem
      simp only [List.mem_cons, List.not_mem_nil, or_false] at hmem
      rcases hmem with rfl | rfl
      · exact not_mem_ofInt (by decide) (by decide) n hc
      · exact not_mem_ofInt (by decide) (by decide) n hc
    unfold inputStyle
    simp only [within_append]
    exact ⟨⟨⟨by decide, hnumber _⟩, by decide⟩, by decide⟩
  have hpieces : ∀ p ∈ ["<input type=".toList, "text".toList, " name=".toList, escape name,
      " class=".toList, inputKind signature, " style=".toList, inputStyle options signature],
      Within IsValueChar p := by
    simp only [List.forall_mem_cons]
    exact ⟨by decide, by decide, by decide, within_escape_valueChar name, by decide, hkind,
      by decide, hstyle, by simp⟩
  have hlast : Within IsValueChar " /".toList := by decide
  have hattribute : attribute? inputKey (inputTag options signature (escape name))
      = some (escape name) := by
    rw [attribute?, inputTag, attributes_quotedTag hpieces hlast]
    rfl
  have hcontent : contentOf? refs ⟨inputTag options signature (escape name), []⟩
      = some (.input name) := by
    rw [contentOf?, show tagName (inputTag options signature (escape name)) = "input".toList from
      rfl, hattribute]
    simp only [refs.decode_escape, Option.map_some]
    rfl
  have hblank : blankName (inputTag options signature (escape name))
      = inputTag options signature [] := by
    rw [blankName, inputTag, blankValues_quotedTag hpieces hlast]
    rfl
  have htag : IsTag (inputTag options signature (escape name)) :=
    isTag_quotedTag hpieces hlast rfl
  have hshows := shows_tag htag List.not_mem_nil hcontent (by simp)
  rw [List.append_nil, hblank] at hshows
  exact hshows

/-- A placeholder is an input in a cell of its own style. -/
theorem cellHtml_eq_inputTag (options : Options) (label : Text) {c : Cell}
    (h : c.isFillable = true) :
    Cell.html options label c = cellTag inputCellStyle
      ++ (inputTag options (asksForSignature label) (escape c.fieldName) ++ "</td>".toList) := by
  unfold Cell.html inputTag inputStyle
  rw [if_pos h]
  simp only [cellTag, styledTag, inputKind, quotedTag_cons, quotedTag_nil, String.reduceToList,
    List.append_assoc, List.cons_append, List.nil_append]

/-- Any other cell has the name of its field in its tag. -/
theorem cellHtml_eq_valueTag (options : Options) (label : Text) {c : Cell}
    (h : c.isFillable = false) :
    Cell.html options label c
      = valueTag (escape c.fieldName) ++ escape c.value ++ "</td>".toList := by
  unfold Cell.html
  rw [if_neg (by simp [h])]
  simp only [valueTag, quotedTag_cons, quotedTag_nil, String.reduceToList, List.append_assoc,
    List.cons_append, List.nil_append]

/-- A cell shows its content, and its tags are told by whether its value is a placeholder. -/
theorem shows_cellHtml (options : Options) (label : Text) (c : Cell) :
    Shows refs (cellTags options (asksForSignature label) c.isFillable) [c.content]
      (Cell.html options label c ++ ['\n']) := by
  have hend : Shows refs ["</td>".toList] [] ("</td>".toList ++ ['\n']) :=
    shows_silent isSilent_cellEnd (by simp)
  rw [cellTags, Cell.content]
  cases hf : c.isFillable with
  | true =>
      have hopen : Shows refs [cellTag inputCellStyle] [] (cellTag inputCellStyle ++ []) :=
        shows_silent isSilent_inputCellTag (by simp)
      have hinput : Shows refs _ _ _ :=
        shows_inputTag options (asksForSignature label) c.fieldName
      rw [List.append_nil] at hopen
      rw [cellHtml_eq_inputTag options label hf, List.append_assoc, List.append_assoc]
      exact hopen.append (hinput.append hend)
  | false =>
      rw [cellHtml_eq_valueTag options label hf, List.append_assoc]
      exact (shows_valueTag c.fieldName c.value).append hend

end Cells

/-! ## Tables -/

theorem isSilent_rowTag : IsSilent "<tr>".toList :=
  isSilent_literal rfl rfl (by decide) (by decide) (by decide)

theorem isSilent_rowEnd : IsSilent "</tr>".toList :=
  isSilent_literal rfl rfl (by decide) (by decide) (by decide)

section Tables

variable {refs : References}

/-- A tag that shows its data as a text, and has no name of a field. -/
structure IsShowing (g : Text) (content : Text → Content) : Prop where
  isTag : IsTag g
  blankName_eq : blankName g = g
  contentOf?_eq : ∀ (refs : References) a,
    contentOf? refs ⟨g, a⟩ = some (content (refs.decode a))
  text?_eq : ∀ t, (content t).text? = some t

/-- An element whose data is shown. -/
theorem shows_element {g close data : Text} {content : Text → Content} (hg : IsShowing g content)
    (hclose : IsSilent close) (hd : '<' ∉ data) {a : Text} (ha : a ∈ [[], ['\n']]) :
    Shows refs [g, close] [content (refs.decode data)] (g ++ data ++ (close ++ a)) := by
  have hshows := shows_tag hg.isTag hd (hg.contentOf?_eq refs data)
    (by simp [hg.text?_eq])
  rw [hg.blankName_eq] at hshows
  exact hshows.append (shows_silent hclose ha)

/-- A tag without attributes that shows its data. -/
theorem isShowing_literal {g : Text} {content : Text → Content}
    (hh : g.dropLast.head? = some '<') (hl : g.getLast? = some '>') (hm : '>' ∉ g.dropLast)
    (hq : '"' ∉ g)
    (hc : ∀ (refs : References) a, contentOf? refs ⟨g, a⟩ = some (content (refs.decode a)))
    (ht : ∀ t, (content t).text? = some t) : IsShowing (String.ofList g).toList content := by
  have htag : IsTag (String.ofList g).toList := isTag_literal hh hl hm
  rw [String.toList_ofList] at htag ⊢
  exact ⟨htag, blankValues_of_not_mem hq _, hc, ht⟩

/-- A tag with a style that shows its data. -/
theorem isShowing_styledTag {lead style : Text} {content : Text → Content}
    (hh : (join ['"'] [lead, style]).head? = some '<') (hl : Within IsValueChar lead)
    (hs : Within IsValueChar style) (hk : lead ∉ [inputKey, valueKey])
    (hc : ∀ (refs : References) a,
      contentOf? refs ⟨styledTag lead style, a⟩ = some (content (refs.decode a)))
    (ht : ∀ t, (content t).text? = some t) : IsShowing (styledTag lead style) content := by
  obtain ⟨htag, hblank⟩ := styledTag_spec hh hl hs hk
  exact ⟨htag, hblank, hc, ht⟩

theorem isShowing_headerTag : IsShowing headerTag .header :=
  isShowing_styledTag rfl (by decide) (by decide) (by decide) (fun _ _ => rfl) (fun _ => rfl)

theorem isShowing_titleTag : IsShowing titleTag .title :=
  isShowing_styledTag rfl (by decide) (by decide) (by decide) (fun _ _ => rfl) (fun _ => rfl)

theorem isShowing_labelTag : IsShowing "<strong>".toList .label :=
  isShowing_literal rfl rfl (by decide) (by decide) (fun _ _ => rfl) (fun _ => rfl)

theorem isShowing_messageTag : IsShowing "<p>".toList .message :=
  isShowing_literal rfl rfl (by decide) (by decide) (fun _ _ => rfl) (fun _ => rfl)

/-- A header shows its text; a reference to a space stands for an empty one. -/
theorem shows_headerHtml (header : Text) :
    Shows refs [headerTag, "</th>".toList]
      [.header (if header.isEmpty then refs.decode "&nbsp;".toList else header)]
      (headerHtml header ++ ['\n']) := by
  have hclose : IsSilent "</th>".toList :=
    isSilent_literal rfl rfl (by decide) (by decide) (by decide)
  -- the reference in an empty header is not escaped, so it is read as what it stands for
  have hdata : '<' ∉ (if header.isEmpty then "&nbsp;".toList else escape header) := by
    split
    · decide
    · exact not_mem_escape (by simp) header
  have hshows : Shows refs _ _ _ := shows_element isShowing_headerTag hclose hdata
    (a := ['\n']) (by simp)
  have hdecode : refs.decode (if header.isEmpty then "&nbsp;".toList else escape header)
      = if header.isEmpty then refs.decode "&nbsp;".toList else header := by
    rw [apply_ite refs.decode, refs.decode_escape]
  have hhtml : ∀ data : Text, "<th style=\"".toList ++ headerStyle ++ "\">".toList ++ data
      ++ "</th>".toList = headerTag ++ data ++ "</th>".toList := by
    intro data
    simp only [headerTag, styledTag, quotedTag_cons, quotedTag_nil, String.reduceToList,
      List.append_assoc, List.cons_append, List.nil_append]
  have hheader : headerHtml header = headerTag
      ++ (if header.isEmpty then "&nbsp;".toList else escape header) ++ "</th>".toList := hhtml _
  rw [hdecode] at hshows
  rw [hheader, List.append_assoc]
  exact hshows

/-- The cell of a label shows the label. -/
theorem shows_labelHtml (label : Text) :
    Shows refs [cellTag cellStyle, "<strong>".toList, "</strong>".toList, "</td>".toList]
      [.label label] (labelHtml label ++ ['\n']) := by
  have hclose : IsSilent "</strong>".toList :=
    isSilent_literal rfl rfl (by decide) (by decide) (by decide)
  have hopen : Shows refs [cellTag cellStyle] [] (cellTag cellStyle ++ []) :=
    shows_silent isSilent_cellTag (by simp)
  have hend : Shows refs ["</td>".toList] [] ("</td>".toList ++ ['\n']) :=
    shows_silent isSilent_cellEnd (by simp)
  have hlabel : Shows refs _ _ _ := shows_element isShowing_labelTag hclose
    (not_mem_escape (c := '<') (by simp) label) (a := []) (by simp)
  have hhtml : labelHtml label ++ ['\n'] = cellTag cellStyle ++ [] ++
      ("<strong>".toList ++ escape label ++ ("</strong>".toList ++ [])) ++
      ("</td>".toList ++ ['\n']) := by
    unfold labelHtml
    simp only [cellTag, styledTag, quotedTag_cons, quotedTag_nil, String.reduceToList,
      List.append_assoc, List.cons_append, List.nil_append, List.append_nil]
  rw [refs.decode_escape] at hlabel
  rw [hhtml]
  exact (hopen.append hlabel).append hend

/-- The cells of a row are told to be placeholders by their values. -/
theorem map_isFillable_cells (untitled : Text) (s : Section) (row : Row) :
    (s.cells untitled row).map Cell.isFillable = (s.rowShape row).placeholders := by
  rw [Section.cells, List.map_map, Section.rowShape]
  have hfst : (s.signatories.zip row.values).map (fun pair => isPlaceholder pair.2)
      = ((s.signatories.zip row.values).zipIdx 1).map fun entry => isPlaceholder entry.1.2 := by
    rw [← List.zipIdx_map_fst 1 (s.signatories.zip row.values), List.map_map,
      List.zipIdx_map_fst]
    rfl
  rw [hfst]
  rfl

theorem tableTag_eq : tableTag
    = "<table style=\"width: 100%; border-collapse: collapse; margin-bottom: 20px;\">".toList := by
  unfold tableTag
  simp only [styledTag, quotedTag_cons, quotedTag_nil, String.reduceToList, List.cons_append,
    List.nil_append]

theorem titleHtml_eq (title : Text) :
    titleHtml title = titleTag ++ escape title ++ "</h3>".toList := by
  unfold titleHtml titleTag
  simp only [styledTag, quotedTag_cons, quotedTag_nil, String.reduceToList, List.cons_append,
    List.nil_append]

/-- A row shows its label and its cells. -/
theorem showsLines_rowLines (options : Options) (s : Section) (row : Row) :
    ShowsLines refs ((s.rowShape row).tags options) (s.rowContents options.untitledSection row)
      (rowLines options s row) := by
  have hcells : ShowsLines refs _ _ _ := showsLines_map (l := s.cells options.untitledSection row)
    fun c _ => shows_cellHtml options row.label c
  rw [← List.flatMap_map Cell.isFillable (cellTags options (asksForSignature row.label)),
    map_isFillable_cells] at hcells
  have hlabel : ShowsLines refs _ _ _ := showsLines_single (shows_labelHtml row.label)
  have hall := (((showsLines_silent isSilent_rowTag).append hlabel).append hcells).append
    (showsLines_silent isSilent_rowEnd)
  rw [List.nil_append, List.append_nil] at hall
  exact hall

/-- The lines before the headers of a table. -/
theorem showsLines_tableOpen : ShowsLines refs [tableTag, "<thead>".toList, "<tr>".toList] []
    [tableTag, "<thead>".toList ++ "<tr>".toList] := by
  have htable : IsSilent tableTag :=
    isSilent_styledTag rfl (by decide) (by decide) (by decide) (by decide)
  have hhead : IsSilent "<thead>".toList :=
    isSilent_literal rfl rfl (by decide) (by decide) (by decide)
  exact (showsLines_silent htable).append (showsLines_silent_append hhead isSilent_rowTag)

/-- The lines between the headers of a table and its rows. -/
theorem showsLines_tableMiddle :
    ShowsLines refs ["</tr>".toList, "</thead>".toList, "<tbody>".toList] []
      ["</tr>".toList ++ "</thead>".toList, "<tbody>".toList] := by
  have hheadEnd : IsSilent "</thead>".toList :=
    isSilent_literal rfl rfl (by decide) (by decide) (by decide)
  have hbody : IsSilent "<tbody>".toList :=
    isSilent_literal rfl rfl (by decide) (by decide) (by decide)
  exact (showsLines_silent_append isSilent_rowEnd hheadEnd).append (showsLines_silent hbody)

/-- The lines after the rows of a table. -/
theorem showsLines_tableEnd : ShowsLines refs ["</tbody>".toList, "</table>".toList] []
    ["</tbody>".toList, "</table>".toList] := by
  have hbodyEnd : IsSilent "</tbody>".toList :=
    isSilent_literal rfl rfl (by decide) (by decide) (by decide)
  have htableEnd : IsSilent "</table>".toList :=
    isSilent_literal rfl rfl (by decide) (by decide) (by decide)
  exact (showsLines_silent hbodyEnd).append (showsLines_silent htableEnd)

/-- A table shows its headers and its rows. -/
theorem showsLines_tableLines (options : Options) {s : Section}
    (hs : ∀ header ∈ s.headers, isAllBlank header = header.isEmpty) :
    ShowsLines refs (s.shape.tableTags options)
      (s.headers.map (headerContent refs) ++ s.rows.flatMap (s.rowContents options.untitledSection))
      (tableLines options s) := by
  have hheaders : ShowsLines refs (s.headers.flatMap fun _ => [headerTag, "</th>".toList])
      (s.headers.map (headerContent refs)) (s.headers.map headerHtml) := by
    refine showsLines_map fun header hh => ?_
    rw [headerContent, hs header hh]
    exact shows_headerHtml header
  have hrows : ShowsLines refs _ _ _ := showsLines_flatMap (l := s.rows)
    fun row _ => showsLines_rowLines options s row
  have hall := (((showsLines_tableOpen.append hheaders).append showsLines_tableMiddle).append
    hrows).append showsLines_tableEnd
  have hopenTags : "<thead><tr>".toList = "<thead>".toList ++ "<tr>".toList := by decide
  have hmiddleTags : "</tr></thead>".toList = "</tr>".toList ++ "</thead>".toList := by decide
  have hheaderTags : (s.headers.flatMap fun _ => [headerTag, "</th>".toList])
      = (List.replicate s.headers.length [headerTag, "</th>".toList]).flatten := by
    rw [List.flatMap_def, List.map_const']
  rw [tableLines, ← tableTag_eq, hopenTags, hmiddleTags, Section.Shape.tableTags, Section.shape,
    ← hheaderTags, List.flatMap_map]
  rw [List.nil_append, List.append_nil, List.append_nil] at hall
  exact hall

end Tables

/-! ## Blocks -/

section Blocks

variable {refs : References}

/-- A title shows its text. -/
theorem shows_titleHtml (title : Text) :
    Shows refs [titleTag, "</h3>".toList] [.title title] (titleHtml title ++ ['\n']) := by
  have hclose : IsSilent "</h3>".toList :=
    isSilent_literal rfl rfl (by decide) (by decide) (by decide)
  have hshows : Shows refs _ _ _ := shows_element isShowing_titleTag hclose
    (not_mem_escape (c := '<') (by simp) title) (a := ['\n']) (by simp)
  rw [refs.decode_escape, ← List.append_assoc] at hshows
  rw [titleHtml_eq]
  exact hshows

/-- The message for an invalid table shows its text. -/
theorem shows_invalidTable :
    Shows refs ["<p>".toList, "</p>".toList] [.message invalidTableText]
      ("<p>".toList ++ invalidTableText ++ "</p>".toList ++ ['\n']) := by
  have hclose : IsSilent "</p>".toList :=
    isSilent_literal rfl rfl (by decide) (by decide) (by decide)
  have hshows : Shows refs _ _ _ := shows_element isShowing_messageTag hclose
    (show '<' ∉ invalidTableText by decide) (a := ['\n']) (by simp)
  have hplain : escape invalidTableText = invalidTableText := by decide
  have hdecode : refs.decode invalidTableText = invalidTableText := by
    have h := refs.decode_escape invalidTableText
    rwa [hplain] at h
  rw [hdecode, ← List.append_assoc] at hshows
  exact hshows

/-- A section shows its title and its table, or the message for an invalid table. -/
theorem shows_parts {options : Options}
    (hm : options.invalidTableMessage = "<p>".toList ++ invalidTableText ++ "</p>".toList)
    {s : Section} (hs : ∀ header ∈ s.headers, isAllBlank header = header.isEmpty) :
    ShowsLines refs (s.shape.tags options) (s.contents refs options.untitledSection)
      (s.parts options) := by
  have htitle : ShowsLines refs (if s.title.isSome then [titleTag, "</h3>".toList] else [])
      (s.title.map Content.title).toList (s.title.map titleHtml).toList := by
    cases s.title with
    | none => exact shows_nil
    | some title => exact showsLines_single (shows_titleHtml title)
  have htable : ShowsLines refs
      (if s.isValid then s.shape.tableTags options else ["<p>".toList, "</p>".toList])
      (if s.isValid then s.headers.map (headerContent refs)
          ++ s.rows.flatMap (s.rowContents options.untitledSection)
        else [.message invalidTableText])
      [if s.isValid then s.tableHtml options else options.invalidTableMessage] := by
    refine showsLines_single ?_
    cases s.isValid with
    | true =>
        have hlines : tableLines options s ≠ [] :=
          List.append_ne_nil_of_right_ne_nil _ (List.cons_ne_nil _ _)
        rw [if_pos rfl, if_pos rfl, if_pos rfl, Section.tableHtml, join_append hlines]
        exact showsLines_tableLines options hs
    | false =>
        rw [if_neg (by simp), if_neg (by simp), if_neg (by simp), hm]
        exact shows_invalidTable
  exact htitle.append htable

theorem blockOpenTag_eq :
    blockOpenTag = quotedTag ["<div class=".toList, "signature-block".toList, " style=".toList,
      "margin: 20px 0; page-break-inside: avoid;".toList] [] := by
  unfold blockOpenTag
  simp only [quotedTag_cons, quotedTag_nil, String.reduceToList, List.cons_append,
    List.nil_append]

theorem isSilent_blockOpenTag : IsSilent blockOpenTag := by
  have hpieces : ∀ p ∈ ["<div class=".toList, "signature-block".toList, " style=".toList,
      "margin: 20px 0; page-break-inside: avoid;".toList], Within IsValueChar p := by decide
  have hname : tagName blockOpenTag
      ∉ ["h3".toList, "th".toList, "strong".toList, "p".toList, "input".toList, "td".toList] := by
    decide
  refine ⟨?_, ?_, ?_⟩
  · rw [blockOpenTag_eq]
    exact isTag_quotedTag hpieces within_nil rfl
  · rw [blockOpenTag_eq, blankName, blankValues_quotedTag hpieces within_nil,
      blankPieces_eq_self (by decide)]
    rfl
  · intro refs a
    simp only [List.mem_cons, List.not_mem_nil, or_false, not_or] at hname
    simp only [contentOf?, hname, if_false]

/-- Sections have the tags of their shapes, and they show their contents. -/
theorem shows_sectionsHtml {options : Options}
    (hm : options.invalidTableMessage = "<p>".toList ++ invalidTableText ++ "</p>".toList)
    {sections : List Section}
    (hs : ∀ s ∈ sections, ∀ header ∈ s.headers, isAllBlank header = header.isEmpty) :
    Shows refs (shapeTags options (sections.map Section.shape))
      (sections.flatMap (Section.contents refs options.untitledSection))
      (sectionsHtml options sections) := by
  have hclose : IsSilent "</div>".toList :=
    isSilent_literal rfl rfl (by decide) (by decide) (by decide)
  have hparts : ShowsLines refs _ _ _ := showsLines_flatMap (l := sections)
    fun s h => shows_parts hm (hs s h)
  have hall := ((showsLines_silent isSilent_blockOpenTag).append hparts).append
    (showsLines_silent hclose)
  rw [List.nil_append, List.append_nil] at hall
  have hlines : [blockOpenTag] ++ sections.flatMap (Section.parts options) ++ ["</div>".toList]
      ≠ [] :=
    List.append_ne_nil_of_right_ne_nil _ (List.cons_ne_nil _ _)
  rw [shapeTags, List.flatMap_map, sectionsHtml, join_append hlines]
  exact hall

theorem shows_render (refs : References) (text : Text) :
    Shows refs
      (if isAllBlank text then []
        else shapeTags .standard ((readBlock text).map Section.shape))
      ((readBlock text).flatMap (Section.contents refs Options.standard.untitledSection))
      (render .standard text) := by
  have hm : Options.standard.invalidTableMessage
      = "<p>".toList ++ invalidTableText ++ "</p>".toList := by decide
  rw [render]
  split
  · next h =>
      rw [readBlock_of_isAllBlank h]
      exact shows_nil
  · exact shows_sectionsHtml hm
      fun s hs header hh => isAllBlank_of_trim_eq (trim_of_mem_headers hs hh)

/-- What a reader sees of a text that shows contents. -/
theorem Shows.reading {ts : List Text} {cs : List Content} {t : Text} (h : Shows refs ts cs t) :
    skeleton t = ts ∧ contents refs t = cs ∧ AtTag t ∧ ∀ g ∈ tagged t, IsShown refs g := by
  obtain ⟨gs, hreads, hts, hcs, hshown⟩ := h
  rw [skeleton, tags, contents, hreads.tagged_eq, List.map_map]
  exact ⟨hts, hcs, hreads.1, hshown⟩

/-- A section shows values only where they are no placeholders. -/
theorem isPlaceholder_of_mem_contents {untitled : Text} {s : Section} {name value : Text}
    (h : .value name value ∈ s.contents refs untitled) : isPlaceholder value = false := by
  have hcell : ∀ c : Cell, c.content = .value name value → isPlaceholder value = false := by
    intro c hc
    rw [Cell.content] at hc
    split at hc
    · simp at hc
    · next hf =>
        rw [Content.value.injEq] at hc
        rw [← hc.2, ← Bool.not_eq_true]
        exact hf
  have hrow : ∀ row, .value name value ∈ s.rowContents untitled row →
      isPlaceholder value = false := by
    intro row hr
    rw [Section.rowContents, List.mem_cons, List.mem_map] at hr
    rcases hr with hr | ⟨c, -, hc⟩
    · simp at hr
    · exact hcell c hc
  rw [Section.contents, List.mem_append] at h
  rcases h with h | h
  · simp at h
  · split at h
    · rw [List.mem_append, List.mem_map, List.mem_flatMap] at h
      rcases h with ⟨header, -, hh⟩ | ⟨row, -, hr⟩
      · rw [headerContent] at hh
        cases hh
      · exact hrow row hr
    · simp at h

/-- A row has a cell for each of its values that stands under a signatory. -/
theorem length_cells (untitled : Text) (s : Section) (row : Row) :
    (s.cells untitled row).length = min s.signatories.length row.values.length := by
  rw [Section.cells, List.length_map, List.length_zipIdx, List.length_zip]

/-- What a reader sees of a block.  Its tags, with the names of the fields left blank, are those of
the shapes of its sections.  Its contents are those of the sections, in their order, and there is
no other character data but line ends.  A value is shown only where it is no placeholder, and a row
shows no more cells than it has values and the section has signatories. -/
theorem render_of_shapes (refs : References) (text : Text) :
    skeleton (render .standard text)
        = (if isAllBlank text then []
          else shapeTags .standard ((readBlock text).map Section.shape)) ∧
      contents refs (render .standard text)
        = (readBlock text).flatMap (Section.contents refs Options.standard.untitledSection) ∧
      AtTag (render .standard text) ∧
      (∀ g ∈ tagged (render .standard text), IsShown refs g) ∧
      (∀ name value, .value name value ∈ contents refs (render .standard text) →
        isPlaceholder value = false) ∧
      ∀ s ∈ readBlock text, ∀ row ∈ s.rows,
        (s.cells Options.standard.untitledSection row).length
          = min s.signatories.length row.values.length := by
  obtain ⟨hskeleton, hcontents, hat, hshown⟩ := (shows_render refs text).reading
  refine ⟨hskeleton, hcontents, hat, hshown, ?_, fun s _ row _ => length_cells _ s row⟩
  intro name value hv
  rw [hcontents, List.mem_flatMap] at hv
  obtain ⟨s, -, hv⟩ := hv
  exact isPlaceholder_of_mem_contents hv

/-- Whether a block is blank is not told by the shapes of its sections: a line of three hyphens has
no section either. -/
theorem skeleton_of_shapes_false :
    ¬ ∃ f : List Section.Shape → List Text, ∀ text,
      skeleton (render .standard text) = f ((readBlock text).map Section.shape) := by
  rintro ⟨f, hf⟩
  -- neither of the two blocks has a section, but only the blank one is left out
  have hblank : skeleton (render .standard []) = [] := by decide +kernel
  have hbreak : skeleton (render .standard "---".toList) ≠ [] := by decide +kernel
  have hshapes : (readBlock "---".toList).map Section.shape = (readBlock []).map Section.shape := by
    decide +kernel
  rw [hf, hshapes, ← hf, hblank] at hbreak
  exact hbreak rfl

end Blocks

end Prepress.Signature
