/-
# What the markup of a signature block shows

A reader cuts the markup of a block into tags and character data.  The texts of the block are shown
as data of certain elements and as names of fields in two attributes (`Content`), and the rest of
the markup is that of the shapes of its sections (`shapeTags`).  A text that is put together from
texts that show contents (`Shows`) shows the contents of each of them.
-/
import Prepress.Proofs.Markup.Attributes
import Prepress.Proofs.Markup.References
import Prepress.Signature.Html

namespace Prepress.Signature

open Text Markup

/-! ## Shapes -/

/-- The shape of a row: for each value under a signatory whether it is a placeholder, and whether
the label asks for a signature. -/
structure Row.Shape where
  placeholders : List Bool
  signature : Bool
deriving DecidableEq

/-- The shape of a section: whether it has a title, whether its table could be read, the number of
its headers, and the shapes of its rows. -/
structure Section.Shape where
  titled : Bool
  valid : Bool
  headers : Nat
  rows : List Row.Shape
deriving DecidableEq

/-- The shape of a row of a section. -/
def Section.rowShape (s : Section) (row : Row) : Row.Shape where
  placeholders := (s.signatories.zip row.values).map fun pair => isPlaceholder pair.2
  signature := asksForSignature row.label

/-- The shape of a section. -/
def Section.shape (s : Section) : Section.Shape where
  titled := s.title.isSome
  valid := s.isValid
  headers := s.headers.length
  rows := s.rows.map s.rowShape

/-! ## The tags of a shape -/

/-- A tag with a style. -/
def styledTag (lead style : Text) : Text := quotedTag [lead, style] []

/-- The tag of a cell with a style. -/
def cellTag (style : Text) : Text := styledTag "<td style=".toList style

/-- The tag of a cell that shows a value, with the name of its field as it is written. -/
def valueTag (name : Text) : Text :=
  quotedTag ["<td style=".toList, cellStyle, " data-field=".toList, name] []

/-- The class of an input. -/
def inputKind (signature : Bool) : Text :=
  (if signature then "signature-field" else "text-field").toList

/-- The style of an input. -/
def inputStyle (options : Options) (signature : Bool) : Text :=
  "width: 95%; height: ".toList
    ++ Text.ofInt (if signature then options.signatureFieldHeight else options.fieldHeight)
    ++ "px; border: none; background: transparent; ".toList
    ++ "font-size: 10pt; padding: 2px;".toList

/-- The tag of an input, with the name of its field as it is written. -/
def inputTag (options : Options) (signature : Bool) (name : Text) : Text :=
  quotedTag ["<input type=".toList, "text".toList, " name=".toList, name, " class=".toList,
    inputKind signature, " style=".toList, inputStyle options signature] " /".toList

/-- The tag of a header. -/
def headerTag : Text := styledTag "<th style=".toList headerStyle

/-- The tag of a title. -/
def titleTag : Text :=
  styledTag "<h3 style=".toList "margin-top: 20px; margin-bottom: 10px;".toList

/-- The tag of a table. -/
def tableTag : Text :=
  styledTag "<table style=".toList
    "width: 100%; border-collapse: collapse; margin-bottom: 20px;".toList

/-- The tags of a cell, with a blank name. -/
def cellTags (options : Options) (signature placeholder : Bool) : List Text :=
  if placeholder then
    [cellTag inputCellStyle, inputTag options signature [], "</td>".toList]
  else [valueTag [], "</td>".toList]

/-- The tags of a row. -/
def Row.Shape.tags (options : Options) (row : Row.Shape) : List Text :=
  ["<tr>".toList, cellTag cellStyle, "<strong>".toList, "</strong>".toList, "</td>".toList]
    ++ row.placeholders.flatMap (cellTags options row.signature)
    ++ ["</tr>".toList]

/-- The tags of a table. -/
def Section.Shape.tableTags (options : Options) (s : Section.Shape) : List Text :=
  [tableTag, "<thead>".toList, "<tr>".toList]
    ++ (List.replicate s.headers [headerTag, "</th>".toList]).flatten
    ++ ["</tr>".toList, "</thead>".toList, "<tbody>".toList]
    ++ s.rows.flatMap (Row.Shape.tags options)
    ++ ["</tbody>".toList, "</table>".toList]

/-- The tags of a section; the message for an invalid table is a paragraph. -/
def Section.Shape.tags (options : Options) (s : Section.Shape) : List Text :=
  (if s.titled then [titleTag, "</h3>".toList] else [])
    ++ (if s.valid then s.tableTags options else ["<p>".toList, "</p>".toList])

/-- The tags of sections. -/
def shapeTags (options : Options) (shapes : List Section.Shape) : List Text :=
  [blockOpenTag] ++ shapes.flatMap (Section.Shape.tags options) ++ ["</div>".toList]

/-! ## Contents -/

/-- What the markup of a block shows of it: titles, headers, labels and values, the names of the
fields, and the message for invalid tables. -/
inductive Content where
  | title (text : Text)
  | header (text : Text)
  | label (text : Text)
  | input (name : Text)
  | value (name text : Text)
  | message (text : Text)
deriving DecidableEq

/-- The text of a content that is shown as character data. -/
def Content.text? : Content → Option Text
  | .title text => some text
  | .header text => some text
  | .label text => some text
  | .input _ => none
  | .value _ text => some text
  | .message text => some text

/-- The key of the name of an input. -/
def inputKey : Text := " name=".toList

/-- The key of the name of a field that has a value. -/
def valueKey : Text := " data-field=".toList

/-- The content that a tag shows together with the data after it. -/
def contentOf? (refs : References) (g : Tagged) : Option Content :=
  if tagName g.tag = "h3".toList then some (.title (refs.decode g.data))
  else if tagName g.tag = "th".toList then some (.header (refs.decode g.data))
  else if tagName g.tag = "strong".toList then some (.label (refs.decode g.data))
  else if tagName g.tag = "p".toList then some (.message (refs.decode g.data))
  else if tagName g.tag = "input".toList then
    (attribute? inputKey g.tag).map fun name => .input (refs.decode name)
  else if tagName g.tag = "td".toList then
    (attribute? valueKey g.tag).map fun name => .value (refs.decode name) (refs.decode g.data)
  else none

/-- The contents of a text, as a reader of the markup sees them. -/
def contents (refs : References) (t : Text) : List Content :=
  (tagged t).filterMap (contentOf? refs)

/-- A tag in which the name of a field is left blank. -/
def blankName (g : Text) : Text := blankValues [inputKey, valueKey] g

/-- The tags of a text, with the names of the fields left blank. -/
def skeleton (t : Text) : List Text := (tags t).map blankName

/-- The character data after a tag is shown, or it is empty or a line end. -/
def IsShown (refs : References) (g : Tagged) : Prop :=
  (contentOf? refs g).bind Content.text? = none → g.data ∈ [[], ['\n']]

/-- The content of a cell: the name of its field, and its value if that is no placeholder. -/
def Cell.content (c : Cell) : Content :=
  if c.isFillable then .input c.fieldName else .value c.fieldName c.value

/-- The contents of a row: its label and its cells. -/
def Section.rowContents (untitled : Text) (s : Section) (row : Row) : List Content :=
  .label row.label :: (s.cells untitled row).map Cell.content

/-- The content of a header; a blank one is a reference to a space that keeps its width. -/
def headerContent (refs : References) (header : Text) : Content :=
  .header (if isAllBlank header then refs.decode "&nbsp;".toList else header)

/-- The wording of the message for invalid tables. -/
def invalidTableText : Text := "Invalid signature table format".toList

/-- The contents of a section. -/
def Section.contents (refs : References) (untitled : Text) (s : Section) : List Content :=
  (s.title.map Content.title).toList
    ++ (if s.isValid then
        s.headers.map (headerContent refs) ++ s.rows.flatMap (s.rowContents untitled)
      else [.message invalidTableText])

/-! ## Texts that show contents -/

section Shows

variable {refs : References}

/-- A text has certain tags when the names of the fields are left blank, and certain contents, and
no other character data but line ends. -/
def Shows (refs : References) (ts : List Text) (cs : List Content) (t : Text) : Prop :=
  ∃ gs, Reads gs t ∧ gs.map (fun g => blankName g.tag) = ts ∧
    gs.filterMap (contentOf? refs) = cs ∧ ∀ g ∈ gs, IsShown refs g

theorem shows_nil : Shows refs [] [] [] := ⟨[], reads_nil, rfl, rfl, by simp⟩

theorem Shows.append {ts us : List Text} {cs ds : List Content} {a b : Text}
    (ha : Shows refs ts cs a) (hb : Shows refs us ds b) :
    Shows refs (ts ++ us) (cs ++ ds) (a ++ b) := by
  obtain ⟨gs, hreads, rfl, rfl, hshown⟩ := ha
  obtain ⟨hs, hreads', rfl, rfl, hshown'⟩ := hb
  refine ⟨gs ++ hs, hreads.append hreads', by simp, by simp, ?_⟩
  intro g hg
  rcases List.mem_append.1 hg with hg | hg
  · exact hshown g hg
  · exact hshown' g hg

theorem shows_flatMap {β : Type} {f : β → Text} {ts : β → List Text} {cs : β → List Content}
    {l : List β} (h : ∀ b ∈ l, Shows refs (ts b) (cs b) (f b)) :
    Shows refs (l.flatMap ts) (l.flatMap cs) (l.flatMap f) := by
  induction l with
  | nil => exact shows_nil
  | cons b l ih =>
      rw [List.flatMap_cons, List.flatMap_cons, List.flatMap_cons]
      exact (h b (by simp)).append (ih fun c hc => h c (List.mem_cons_of_mem b hc))

/-- Lines with a line end after each show certain contents. -/
abbrev ShowsLines (refs : References) (ts : List Text) (cs : List Content) (ls : List Text) :
    Prop :=
  Shows refs ts cs (ls.flatMap (· ++ ['\n']))

theorem ShowsLines.append {ts us : List Text} {cs ds : List Content} {ls ms : List Text}
    (hl : ShowsLines refs ts cs ls) (hm : ShowsLines refs us ds ms) :
    ShowsLines refs (ts ++ us) (cs ++ ds) (ls ++ ms) := by
  rw [ShowsLines, List.flatMap_append]
  exact Shows.append hl hm

theorem showsLines_single {ts : List Text} {cs : List Content} {l : Text}
    (h : Shows refs ts cs (l ++ ['\n'])) : ShowsLines refs ts cs [l] := by
  rwa [ShowsLines, List.flatMap_singleton]

theorem showsLines_flatMap {β : Type} {f ts : β → List Text} {cs : β → List Content}
    {l : List β} (h : ∀ b ∈ l, ShowsLines refs (ts b) (cs b) (f b)) :
    ShowsLines refs (l.flatMap ts) (l.flatMap cs) (l.flatMap f) := by
  rw [ShowsLines, List.flatMap_assoc]
  exact shows_flatMap h

theorem showsLines_map {β : Type} {f : β → Text} {ts : β → List Text} {c : β → Content}
    {l : List β} (h : ∀ b ∈ l, Shows refs (ts b) [c b] (f b ++ ['\n'])) :
    ShowsLines refs (l.flatMap ts) (l.map c) (l.map f) := by
  rw [ShowsLines, List.flatMap_map, List.map_eq_flatMap]
  exact shows_flatMap h

/-- A tag and the data after it. -/
theorem shows_tag {g a : Text} {c : Option Content} (hg : IsTag g) (ha : '<' ∉ a)
    (hc : contentOf? refs ⟨g, a⟩ = c) (hd : c.bind Content.text? = none → a ∈ [[], ['\n']]) :
    Shows refs [blankName g] c.toList (g ++ a) := by
  refine ⟨[⟨g, a⟩], reads_tag hg ha, rfl, ?_, ?_⟩
  · rw [List.filterMap_cons, hc]
    cases c <;> rfl
  · intro h hh
    rw [List.mem_singleton.1 hh, IsShown, hc]
    exact hd

/-- A tag that has no name of a field and shows nothing. -/
structure IsSilent (g : Text) : Prop where
  isTag : IsTag g
  blankName_eq : blankName g = g
  contentOf?_eq : ∀ (refs : References) a, contentOf? refs ⟨g, a⟩ = none

theorem shows_silent {g a : Text} (hg : IsSilent g) (ha : a ∈ [[], ['\n']]) :
    Shows refs [g] [] (g ++ a) := by
  have hnone : ∀ a ∈ [[], ['\n']], '<' ∉ a := by decide
  have hshows := shows_tag hg.isTag (hnone a ha) (hg.contentOf?_eq refs a)
    fun _ => ha
  rwa [hg.blankName_eq] at hshows

/-- A line that is a tag which shows nothing. -/
theorem showsLines_silent {g : Text} (hg : IsSilent g) : ShowsLines refs [g] [] [g] :=
  showsLines_single (shows_silent hg (by simp))

/-- A line of two tags which show nothing. -/
theorem showsLines_silent_append {g k : Text} (hg : IsSilent g) (hk : IsSilent k) :
    ShowsLines refs [g, k] [] [g ++ k] := by
  have hline : Shows refs [g, k] [] (g ++ [] ++ (k ++ ['\n'])) :=
    (shows_silent hg (by simp)).append (shows_silent hk (by simp))
  rw [List.append_nil, ← List.append_assoc] at hline
  exact showsLines_single hline

/-- A tag without attributes, and without a name that shows something. -/
theorem isSilent_literal {g : Text} (hh : g.dropLast.head? = some '<') (hl : g.getLast? = some '>')
    (hm : '>' ∉ g.dropLast) (hq : '"' ∉ g)
    (hn : tagName g ∉ ["h3".toList, "th".toList, "strong".toList, "p".toList, "input".toList,
      "td".toList]) : IsSilent (String.ofList g).toList := by
  have htag : IsTag (String.ofList g).toList := isTag_literal hh hl hm
  rw [String.toList_ofList] at htag ⊢
  simp only [List.mem_cons, List.not_mem_nil, or_false, not_or] at hn
  refine ⟨htag, blankValues_of_not_mem hq _, ?_⟩
  intro refs a
  simp only [contentOf?, hn, if_false]

section StyledTag

variable {lead style : Text} (hh : (join ['"'] [lead, style]).head? = some '<')
  (hl : Within IsValueChar lead) (hs : Within IsValueChar style)
  (hk : lead ∉ [inputKey, valueKey])

include hh hl hs hk

/-- A tag with a style has no name of a field. -/
theorem styledTag_spec :
    IsTag (styledTag lead style) ∧ blankName (styledTag lead style) = styledTag lead style := by
  have hpieces : ∀ p ∈ [lead, style], Within IsValueChar p := by simp [hl, hs]
  refine ⟨isTag_quotedTag hpieces within_nil hh, ?_⟩
  rw [blankName, styledTag, blankValues_quotedTag hpieces within_nil, blankPieces_eq_self]
  · rfl
  · simpa [valuePairs] using hk

/-- A tag with a style, and without a name that shows something. -/
theorem isSilent_styledTag (hn : tagName (styledTag lead style)
      ∉ ["h3".toList, "th".toList, "strong".toList, "p".toList, "input".toList]) :
    IsSilent (styledTag lead style) := by
  obtain ⟨htag, hblank⟩ := styledTag_spec hh hl hs hk
  refine ⟨htag, hblank, ?_⟩
  intro refs a
  have hpieces : ∀ p ∈ [lead, style], Within IsValueChar p := by simp [hl, hs]
  -- a cell shows a value only with the name of its field, and the only key here is another one
  have hvalue : attribute? valueKey (styledTag lead style) = none := by
    rw [attribute?, styledTag, attributes_quotedTag hpieces within_nil]
    simp only [List.mem_cons, List.not_mem_nil, or_false, not_or] at hk
    simp [valuePairs, beq_eq_false_iff_ne.2 (Ne.symm hk.2)]
  simp only [List.mem_cons, List.not_mem_nil, or_false, not_or] at hn
  simp only [contentOf?, hn, hvalue, if_false, Option.map_none, ite_self]

end StyledTag

end Shows

end Prepress.Signature
