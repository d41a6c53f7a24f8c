/-
# Reading the markup of a drawing

A reader cuts the markup of a drawing into tags and character data.  Of the elements, only the
headings and the labels show texts of the document, and every bar and every diamond is one tag
(`Mark`).

* `tagged_text` : the tags of a drawing are those of its elements, line by line;
* `marks_text` : the marks of a drawing are its title, and then the heading of each section, and
  the label and the figure of each task, row by row;
* `exists_mark_of_infix_text` : a word in brackets stands in a drawing only where it stands in the
  text of a mark.
-/
import Prepress.Proofs.Markup.References
import Prepress.Proofs.Markup.Tags
import Prepress.Proofs.Markup.Values
import Prepress.Proofs.Markup.Words
import Prepress.Proofs.Number.Amount
import Prepress.Timeline.Svg

namespace Prepress.Timeline

open Text Markup Amount

/-! ## Attributes -/

/-- A character that is in neither the name nor the value of an attribute is not in the attribute,
unless it is one of the signs between them. -/
theorem not_mem_attr {c : Char} (hc : c ∉ [' ', '=', '"']) {name value : Text} (hn : c ∉ name)
    (hv : c ∉ value) : c ∉ attr (String.ofList name) value := by
  simp only [List.mem_cons, List.not_mem_nil, or_false, not_or] at hc
  obtain ⟨hspace, hequal, hquote⟩ := hc
  unfold attr
  rw [String.toList_ofList, String.toList_ofList, String.toList_ofList]
  intro h
  rcases List.mem_append.1 h with h | h
  · rcases List.mem_append.1 h with h | h
    · rcases List.mem_append.1 h with h | h
      · rcases List.mem_cons.1 h with h | h
        · exact hspace h
        · exact hn h
      · simp [hequal, hquote] at h
    · exact hv h
  · exact hquote (List.mem_singleton.1 h)

/-! ## Text elements -/

/-- The tag that opens a text element. -/
def textTag (x y attributes : Text) : Text :=
  "<text".toList ++ attr "x" x ++ attr "y" y ++ attributes ++ ['>']

section TextTag

variable {x y attributes : Text} (hx : Within IsAmountChar x) (hy : Within IsAmountChar y)

include hx hy

/-- The place of a text element brings in no bracket after the first one, and no class. -/
theorem not_mem_textTag {c : Char} (hc : c ∈ ['>', '[', 'c']) :
    c ∉ "<text".toList ++ attr "x" x ++ attr "y" y := by
  have hall : ∀ d ∈ ['>', '[', 'c'], d ∉ [' ', '=', '"'] ∧ d ∉ "<text".toList ∧ d ∉ ['x'] ∧
      d ∉ ['y'] ∧ ¬ IsAmountChar d := by
    decide
  obtain ⟨hsigns, htext, hxname, hyname, hamount⟩ := hall c hc
  rw [List.mem_append, List.mem_append, not_or, not_or]
  exact ⟨⟨htext, not_mem_attr hsigns hxname (hx.not_mem hamount)⟩,
    not_mem_attr hsigns hyname (hy.not_mem hamount)⟩

theorem isTag_textTag (ha : '>' ∉ attributes) : IsTag (textTag x y attributes) := by
  refine isTag_concat rfl ?_
  rw [List.mem_append, not_or]
  exact ⟨not_mem_textTag hx hy (by decide), ha⟩

theorem isBare_textTag (ha : '[' ∉ attributes) : IsBare (textTag x y attributes) := by
  refine ⟨?_, ⟨'<', rfl, by decide⟩, '>', List.getLast?_concat, by decide⟩
  unfold textTag
  rw [List.mem_append, List.mem_append, not_or, not_or]
  exact ⟨⟨not_mem_textTag hx hy (by decide), ha⟩, by decide⟩

end TextTag

/-! ## Elements as lines -/

/-- The tags of an element on a line of its own, each with the data after it. -/
def readLine (l : Text) : List Tagged := tagged (l ++ ['\n'])

/-- The tags of an element are read on its line, whatever the next line is. -/
def IsElement (l : Text) : Prop := Reads (readLine l) (l ++ ['\n'])

theorem isElement_of_reads {gs : List Tagged} {l : Text} (h : Reads gs (l ++ ['\n'])) :
    IsElement l ∧ readLine l = gs := by
  have hread : readLine l = gs := h.tagged_eq
  refine ⟨?_, hread⟩
  rw [IsElement, hread]
  exact h

/-- A tag alone on its line. -/
theorem readLine_of_isTag {l : Text} (h : IsTag l) :
    IsElement l ∧ readLine l = [⟨l, ['\n']⟩] :=
  isElement_of_reads (reads_tag h (by decide))

/-- Data between two tags. -/
theorem readLine_enclosed {g data k : Text} (hg : IsTag g) (hd : '<' ∉ data) (hk : IsTag k) :
    IsElement (g ++ data ++ k) ∧ readLine (g ++ data ++ k) = [⟨g, data⟩, ⟨k, ['\n']⟩] := by
  have hreads := (reads_tag hg hd).append (reads_tag hk (a := ['\n']) (by decide))
  rw [← List.append_assoc] at hreads
  exact isElement_of_reads hreads

theorem readLine_textElement {x y attributes : Text} (hx : Within IsAmountChar x)
    (hy : Within IsAmountChar y) (ha : '>' ∉ attributes) (content : Text) :
    IsElement (textElement x y attributes content) ∧
      readLine (textElement x y attributes content)
        = [⟨textTag x y attributes, escape content⟩, ⟨"</text>".toList, ['\n']⟩] :=
  readLine_enclosed (isTag_textTag hx hy ha) (not_mem_escape (by simp) content)
    (isTag_literal rfl rfl (by decide))

/-- Elements on lines of their own are read line by line. -/
theorem tagged_lines {ls : List Text} (h : ∀ l ∈ ls, IsElement l) :
    tagged (ls.flatMap (· ++ ['\n'])) = ls.flatMap readLine :=
  (reads_flatMap h).tagged_eq

/-! ## The elements of a drawing -/

/-- A character that neither ends a tag nor begins a word in brackets. -/
def IsInner (c : Char) : Prop := c ∉ ['>', '[']

instance (c : Char) : Decidable (IsInner c) := by
  unfold IsInner
  infer_instance

/-- A tag that no word in brackets begins in. -/
structure IsBareTag (l : Text) : Prop where
  isTag : IsTag l
  not_mem : '[' ∉ l

theorem isBareTag_concat {a : Text} (hh : a.head? = some '<') (ha : Within IsInner a) :
    IsBareTag (a ++ ['>']) := by
  refine ⟨isTag_concat hh (ha.not_mem (by decide)), ?_⟩
  rw [List.mem_append, not_or]
  exact ⟨ha.not_mem (by decide), by decide⟩

theorem isBareTag_selfClosing {a : Text} (hh : a.head? = some '<') (ha : Within IsInner a) :
    IsBareTag (a ++ " />".toList) := by
  have hsplit : a ++ " />".toList = a ++ " /".toList ++ ['>'] := by
    rw [List.append_assoc]
    rfl
  rw [hsplit]
  obtain ⟨m, rfl⟩ := List.head?_eq_some_iff.1 hh
  exact isBareTag_concat rfl (within_append.2 ⟨ha, by decide⟩)

/-- An attribute whose value has no closing bracket and begins no word has none itself. -/
theorem within_attr_inner {name value : Text} (hn : Within IsInner name)
    (hv : Within IsInner value) : Within IsInner (attr (String.ofList name) value) := by
  unfold attr
  rw [String.toList_ofList, String.toList_ofList, String.toList_ofList]
  simp only [within_append, within_cons]
  exact ⟨⟨⟨⟨by decide, hn⟩, by decide⟩, hv⟩, by decide⟩

theorem isInner_of_isAmountChar (c : Char) (h : IsAmountChar c) : IsInner c := by
  intro hc
  have hnone : ∀ d ∈ ['>', '['], ¬ IsAmountChar d := by decide
  exact hnone c hc h

theorem within_attr_amount {name value : Text} (hn : Within IsInner name)
    (hv : Within IsAmountChar value) : Within IsInner (attr (String.ofList name) value) :=
  within_attr_inner hn (hv.imp isInner_of_isAmountChar)

/-- A month and a day have no bracket. -/
theorem not_mem_monthAndDay (d : Date) : '[' ∉ Calendar.monthAndDay d := by
  have hnames : ∀ name ∈ Calendar.monthAbbreviations, '[' ∉ name := by decide
  have hmonth : '[' ∉ Calendar.monthAbbreviations.getD (d.month - 1) [] := by
    rw [List.getD_eq_getElem?_getD]
    cases hm : Calendar.monthAbbreviations[d.month - 1]? with
    | none => exact List.not_mem_nil
    | some name => exact hnames name (List.mem_of_getElem? hm)
  rw [Calendar.monthAndDay, List.mem_append, List.mem_append, not_or, not_or]
  exact ⟨⟨hmonth, by decide⟩, (within_amount_ofNat d.day).not_mem (by decide)⟩

/-- A date with hyphens has no bracket. -/
theorem not_mem_hyphenated (d : Date) : '[' ∉ Calendar.hyphenated d := by
  have hyear : '[' ∉ Text.ofNat d.year := (within_amount_ofNat d.year).not_mem (by decide)
  have hpadded : ∀ n, '[' ∉ Text.zeroPadded 2 n := fun n =>
    (within_padLeft (by decide) (within_amount_ofNat n)).not_mem (by decide)
  rw [Calendar.hyphenated]
  simp only [List.mem_append, not_or]
  exact ⟨⟨⟨⟨hyear, by decide⟩, hpadded _⟩, by decide⟩, hpadded _⟩

variable {α : Type} [Measure α]

/-- A point is written with two amounts and a comma. -/
theorem not_mem_point {c : Char} (ha : ¬ IsAmountChar c) (hc : c ≠ ',') (x y : α) :
    c ∉ point x y := by
  unfold point
  rw [List.mem_append, List.mem_append, not_or, not_or, List.mem_singleton]
  exact ⟨⟨(Amount.within_short x).not_mem ha, hc⟩, (Amount.within_short y).not_mem ha⟩

/-- The corners of a diamond are points with spaces between them. -/
theorem not_mem_corners {c : Char} (ha : ¬ IsAmountChar c) (hc : c ∉ [',', ' ']) (x y size : α) :
    c ∉ join [' '] [point x (y - size), point (x + size) y, point x (y + size),
      point (x - size) y] := by
  simp only [List.mem_cons, List.not_mem_nil, or_false, not_or] at hc
  simp [join, not_mem_point ha hc.1, hc.2]

/-! ## Marks -/

/-- What a drawing shows of a document: the title and the headings, the labels, and the figures of
the tasks. -/
inductive Mark where
  | heading (text : Text)
  | label (text : Text)
  | bar
  | diamond
deriving DecidableEq

/-- The text of a mark; bars and diamonds have none. -/
def Mark.text : Mark → Text
  | .heading text => text
  | .label text => text
  | _ => []

/-- The values of the classes of a tag. -/
def classes (g : Text) : List Text := valuesAfter "class=\"".toList '"' g

/-- The mark that a tag makes together with the data after it.  Headings and labels are text
elements of their class, with references in their data; bars and diamonds are told by the names of
their tags. -/
def markOf? (refs : References) (g : Tagged) : Option Mark :=
  if tagName g.tag = "text".toList then
    if "section".toList ∈ classes g.tag then some (.heading (refs.decode g.data))
    else if "label".toList ∈ classes g.tag then some (.label (refs.decode g.data))
    else none
  else if tagName g.tag = "rect".toList then some .bar
  else if tagName g.tag = "polygon".toList then some .diamond
  else none

/-- The marks in a text, as a reader of the markup sees them. -/
def marks (refs : References) (t : Text) : List Mark := (tagged t).filterMap (markOf? refs)

/-- The marks in an element on a line of its own. -/
def lineMarks (refs : References) (l : Text) : List Mark := (readLine l).filterMap (markOf? refs)

section Classes

variable {x y : Text} (hx : Within IsAmountChar x) (hy : Within IsAmountChar y)

include hx hy

/-- The class of a text element is read off its tag. -/
theorem classes_textTag {value : Text} (hv : '"' ∉ value)
    (ha : isApart "class=\"".toList (value ++ ['"', '>']) = true) :
    classes (textTag x y (attr "class" value)) = [value] := by
  have hplace : Adds "class=\"".toList '"' []
      ("<text".toList ++ attr "x" x ++ attr "y" y ++ [' ']) := by
    refine adds_of_head (c := 'c') rfl ?_
    rw [List.mem_append, not_or]
    exact ⟨not_mem_textTag hx hy (by decide), by decide⟩
  have hvalue : Adds "class=\"".toList '"' [value] ("class=\"".toList ++ (value ++ '"' :: ['>'])) :=
    adds_mark rfl (by decide) hv (adds_of_isApart ha)
  have hsplit : textTag x y (attr "class" value)
      = ("<text".toList ++ attr "x" x ++ attr "y" y ++ [' '])
        ++ ("class=\"".toList ++ (value ++ '"' :: ['>'])) := by
    unfold textTag attr
    simp only [List.append_assoc, List.cons_append]
    rfl
  rw [classes, hsplit]
  exact (hplace.append hvalue).valuesAfter_eq

/-- A text element without a sign of a class has none. -/
theorem classes_textTag_of_not_mem {attributes : Text} (ha : 'c' ∉ attributes) :
    classes (textTag x y attributes) = [] := by
  have hnone : Adds "class=\"".toList '"' [] (textTag x y attributes) := by
    refine adds_of_head (c := 'c') rfl ?_
    unfold textTag
    rw [List.mem_append, List.mem_append, not_or, not_or]
    exact ⟨⟨not_mem_textTag hx hy (by decide), ha⟩, by decide⟩
  exact hnone.valuesAfter_eq

omit hx hy

theorem tagName_textTag (x y attributes : Text) :
    tagName (textTag x y attributes) = "text".toList :=
  rfl

end Classes

/-! ## Lines that show marks -/

/-- Lines are elements, certain marks are seen in them, and a word in brackets stands in the lines
only where it stands in the text of a mark. -/
structure Shows (refs : References) (ms : List Mark) (ls : List Text) : Prop where
  isElement : ∀ l ∈ ls, IsElement l
  marks_eq : ls.flatMap (lineMarks refs) = ms
  words : ∀ word, IsBracketed word → InLines word ls → ∃ m ∈ ms, word <:+: m.text

variable {refs : References}

theorem shows_nil : Shows refs [] [] := ⟨by simp, rfl, fun _ _ h => absurd h inLines_nil⟩

theorem Shows.append {ms ns : List Mark} {ls ks : List Text} (hl : Shows refs ms ls)
    (hk : Shows refs ns ks) : Shows refs (ms ++ ns) (ls ++ ks) := by
  constructor
  · intro l h
    rcases List.mem_append.1 h with h | h
    · exact hl.isElement l h
    · exact hk.isElement l h
  · rw [List.flatMap_append, hl.marks_eq, hk.marks_eq]
  · intro word hw h
    rcases inLines_append.1 h with h | h
    · obtain ⟨m, hm, hi⟩ := hl.words word hw h
      exact ⟨m, List.mem_append_left ns hm, hi⟩
    · obtain ⟨m, hm, hi⟩ := hk.words word hw h
      exact ⟨m, List.mem_append_right ms hm, hi⟩

theorem shows_flatMap {β : Type} {f : β → List Text} {g : β → List Mark} {l : List β}
    (h : ∀ b ∈ l, Shows refs (g b) (f b)) : Shows refs (l.flatMap g) (l.flatMap f) := by
  induction l with
  | nil => exact shows_nil
  | cons b l ih =>
      rw [List.flatMap_cons, List.flatMap_cons]
      exact (h b (by simp)).append (ih fun c hc => h c (List.mem_cons_of_mem b hc))

/-- A tag alone on its line shows the mark that it makes. -/
theorem shows_tag {l : Text} {m : Option Mark} (hl : IsBareTag l)
    (hm : markOf? refs ⟨l, ['\n']⟩ = m) : Shows refs m.toList [l] := by
  obtain ⟨helement, hread⟩ := readLine_of_isTag hl.isTag
  refine ⟨by simpa using helement, ?_, ?_⟩
  · rw [List.flatMap_singleton, lineMarks, hread, List.filterMap_cons, hm]
    cases m <;> rfl
  · intro word hw h
    exact absurd h (hw.not_inLines (by simpa using hl.not_mem))

/-- A text element shows the mark that its class makes of its text. -/
theorem shows_textElement {x y attributes : Text} (hx : Within IsAmountChar x)
    (hy : Within IsAmountChar y) (ha : Within IsInner attributes) {content : Text}
    {m : Option Mark} (hm : markOf? refs ⟨textTag x y attributes, escape content⟩ = m)
    (hc : '[' ∈ content → ∃ k ∈ m, k.text = content) :
    Shows refs m.toList [textElement x y attributes content] := by
  obtain ⟨helement, hread⟩ := readLine_textElement hx hy (ha.not_mem (by decide)) content
  refine ⟨by simpa using helement, ?_, ?_⟩
  · have hclose : markOf? refs ⟨"</text>".toList, ['\n']⟩ = none := rfl
    rw [List.flatMap_singleton, lineMarks, hread, List.filterMap_cons, hm, List.filterMap_cons,
      hclose]
    cases m <;> rfl
  · intro word hw h
    have hopen : IsBare (textTag x y attributes) := isBare_textTag hx hy (ha.not_mem (by decide))
    have hclose : IsBare "</text>".toList := isBare_literal (by decide)
    rw [inLines_cons, or_iff_left inLines_nil] at h
    -- the word stands between the tags, and so in the content
    have hcontent : word <:+: content :=
      (infix_escape_iff hw content).1 ((hw.infix_between_iff hopen hclose _).1 h)
    have hbracket : '[' ∈ content := by
      by_contra hnone
      exact hw.not_isInfix hnone hcontent
    obtain ⟨k, hk, he⟩ := hc hbracket
    exact ⟨k, Option.mem_toList.2 hk, by rw [he]; exact hcontent⟩

theorem shows_heading {x y : Text} (hx : Within IsAmountChar x) (hy : Within IsAmountChar y)
    (name : Text) :
    Shows refs [.heading name] [textElement x y (attr "class" "section".toList) name] := by
  refine shows_textElement hx hy (within_attr_inner (by decide) (by decide))
    (m := some (.heading name)) ?_ (fun _ => ⟨_, rfl, rfl⟩)
  rw [markOf?, if_pos (tagName_textTag _ _ _), classes_textTag hx hy (by decide) (by decide),
    if_pos (by simp), refs.decode_escape]

theorem shows_label {x y : Text} (hx : Within IsAmountChar x) (hy : Within IsAmountChar y)
    (label : Text) :
    Shows refs [.label label] [textElement x y (attr "class" "label".toList) label] := by
  refine shows_textElement hx hy (within_attr_inner (by decide) (by decide))
    (m := some (.label label)) ?_ (fun _ => ⟨_, rfl, rfl⟩)
  rw [markOf?, if_pos (tagName_textTag _ _ _), classes_textTag hx hy (by decide) (by decide),
    if_neg (by decide), if_pos (by simp), refs.decode_escape]

/-! ## The marks of a drawing -/

/-- A tick shows no mark. -/
theorem Tick.shows_elements (t : Tick α) : Shows refs [] t.elements := by
  have hline : IsBareTag ("<line".toList ++ attr "x1" (Amount.short t.x) ++ attr "y1" ['0']
      ++ attr "x2" (Amount.short t.x) ++ attr "y2" ['8'] ++ attr "stroke" "#ccc".toList
      ++ " />".toList) := by
    have hx : Within IsAmountChar (Amount.short t.x) := Amount.within_short t.x
    refine isBareTag_selfClosing rfl ?_
    simp only [within_append]
    exact ⟨⟨⟨⟨⟨by decide, within_attr_amount (by decide) hx⟩,
      within_attr_inner (by decide) (by decide)⟩, within_attr_amount (by decide) hx⟩,
      within_attr_inner (by decide) (by decide)⟩, within_attr_inner (by decide) (by decide)⟩
  have hdate : Within IsAmountChar "20".toList := by decide
  refine (shows_tag hline (m := none) rfl).append (shows_textElement (Amount.within_short _) hdate
    (within_attr_inner (by decide) (by decide)) (m := none) ?_
    (fun h => absurd h (not_mem_monthAndDay _)))
  rw [markOf?, if_pos (tagName_textTag _ _ _),
    classes_textTag (Amount.within_short _) hdate (by decide) (by decide), if_neg (by decide),
    if_neg (by decide)]

/-- The mark of a figure. -/
def Figure.mark : Figure α → Mark
  | .bar _ _ _ _ => .bar
  | .diamond _ _ _ => .diamond

/-- A bar is a rectangle and the date of its task after it. -/
theorem Figure.elements_bar (barHeight : Int) (x y width : α) (start : Instant) :
    ∃ rect, IsBareTag rect ∧ tagName rect = "rect".toList ∧
      (Figure.bar x y width start).elements barHeight = [rect,
        textElement (Amount.short (x + Measure.ofInt 4)) (Amount.short (y + Measure.ofInt 10))
          (attr "font-size" "10px".toList ++ attr "fill" "#fff".toList)
          (Calendar.hyphenated start.date)] := by
  refine ⟨_, isBareTag_selfClosing rfl ?_, rfl, rfl⟩
  simp only [within_append]
  exact ⟨⟨⟨⟨⟨⟨by decide, within_attr_amount (by decide) (Amount.within_short x)⟩,
    within_attr_amount (by decide) (Amount.within_short y)⟩,
    within_attr_amount (by decide) (Amount.within_short width)⟩,
    within_attr_amount (by decide) (within_amount_ofInt barHeight)⟩,
    within_attr_inner (by decide) (by decide)⟩, within_attr_inner (by decide) (by decide)⟩

/-- A figure is one tag, and a bar has the date of its task after it. -/
theorem Figure.shows_elements (barHeight : Int) (f : Figure α) :
    Shows refs [f.mark] (f.elements barHeight) := by
  cases f with
  | diamond x y size =>
      have hpoints : Within IsInner (join [' '] [point x (y - size), point (x + size) y,
          point x (y + size), point (x - size) y]) := by
        intro c hc hforeign
        have hnone : ∀ d ∈ ['>', '['], ¬ IsAmountChar d ∧ d ∉ [',', ' '] := by decide
        exact not_mem_corners (hnone c hforeign).1 (hnone c hforeign).2 x y size hc
      refine shows_tag (isBareTag_selfClosing rfl ?_) (m := some .diamond) rfl
      simp only [within_append]
      exact ⟨⟨by decide, within_attr_inner (by decide) hpoints⟩,
        within_attr_inner (by decide) (by decide)⟩
  | bar x y width start =>
      obtain ⟨rect, hrect, hname, helements⟩ := Figure.elements_bar barHeight x y width start
      have hbar : markOf? refs ⟨rect, ['\n']⟩ = some .bar := by
        rw [markOf?, hname]
        rfl
      have hstyle : Within IsInner (attr "font-size" "10px".toList ++ attr "fill" "#fff".toList) ∧
          'c' ∉ attr "font-size" "10px".toList ++ attr "fill" "#fff".toList := by
        decide
      rw [helements]
      refine (shows_tag hrect hbar).append (shows_textElement
        (Amount.within_short _) (Amount.within_short _) hstyle.1 (m := none) ?_
        (fun h => absurd h (not_mem_hyphenated _)))
      rw [markOf?, if_pos (tagName_textTag _ _ _), classes_textTag_of_not_mem
        (Amount.within_short _) (Amount.within_short _) hstyle.2, if_neg (by simp),
        if_neg (by simp)]

/-- The marks of a row. -/
def Row.marks : Row α → List Mark
  | .heading _ name => [.heading name]
  | .task _ label figure => [.label label, figure.mark]

theorem Row.shows_elements (barHeight : Int) (row : Row α) :
    Shows refs row.marks (row.elements barHeight) := by
  have hx : Within IsAmountChar "10".toList := by decide
  cases row with
  | heading baseline name => exact shows_heading hx (Amount.within_short baseline) name
  | task baseline label figure =>
      exact (shows_label hx (Amount.within_short baseline) label).append
        (figure.shows_elements barHeight)

/-- The heading that a title is shown as, unless the title is missing or empty. -/
def titleMarks : Option Text → List Mark
  | some (c :: t) => [.heading (c :: t)]
  | _ => []

omit [Measure α] in
theorem Drawing.shows_titleElements (d : Drawing α) :
    Shows refs (titleMarks d.title) d.titleElements := by
  have hy : Within IsAmountChar "20".toList := by decide
  rw [Drawing.titleElements]
  match d.title with
  | none => exact shows_nil
  | some [] => exact shows_nil
  | some (c :: t) => exact shows_heading (within_amount_ofInt _) hy (c :: t)

/-- The axis shows no mark. -/
theorem Drawing.shows_axisElements (d : Drawing α) : Shows refs [] d.axisElements := by
  have hnumber : ∀ n, Within IsInner (Text.ofInt n) :=
    fun n => (within_amount_ofInt n).imp isInner_of_isAmountChar
  have hplace : Within IsInner ("translate(".toList ++ Text.ofInt d.canvas.labelWidth
      ++ ", ".toList ++ Text.ofInt (d.canvas.headerHeight - 8) ++ ")".toList) := by
    simp only [within_append]
    exact ⟨⟨⟨⟨by decide, hnumber _⟩, by decide⟩, hnumber _⟩, by decide⟩
  have hopen : IsBareTag ("<g".toList ++ attr "transform" ("translate(".toList
      ++ Text.ofInt d.canvas.labelWidth ++ ", ".toList ++ Text.ofInt (d.canvas.headerHeight - 8)
      ++ ")".toList) ++ ['>']) :=
    isBareTag_concat rfl (within_append.2 ⟨by decide, within_attr_inner (by decide) hplace⟩)
  have hticks : Shows refs [] (d.ticks.flatMap Tick.elements) := by
    have hnone : (d.ticks.flatMap fun _ => ([] : List Mark)) = [] := by simp
    rw [← hnone]
    exact shows_flatMap fun t _ => t.shows_elements
  have hclose : IsBareTag "</g>".toList := ⟨isTag_literal rfl rfl (by decide), by decide⟩
  exact ((shows_tag hopen (m := none) rfl).append hticks).append
    (shows_tag hclose (m := none) rfl)

/-- The marks of a drawing. -/
def Drawing.marks (d : Drawing α) : List Mark := titleMarks d.title ++ d.rows.flatMap Row.marks

theorem shows_styleElement : Shows refs [] [styleElement] := by
  have hopen : IsTag "<style>".toList := isTag_literal rfl rfl (by decide)
  have hclose : IsTag "</style>".toList := isTag_literal rfl rfl (by decide)
  -- the style sheet has no bracket of its own
  have hsplit : ∃ sheet, ('<' ∉ sheet ∧ '[' ∉ sheet) ∧
      styleElement = "<style>".toList ++ sheet ++ "</style>".toList := by
    refine ⟨(styleElement.drop 7).take (styleElement.length - 15), ?_, ?_⟩
    all_goals
      unfold styleElement
      rw [String.toList_append, String.toList_append, String.toList_append,
        String.toList_ofList, String.toList_ofList, String.toList_ofList, String.toList_ofList]
      decide +kernel
  obtain ⟨sheet, hsheet, he⟩ := hsplit
  obtain ⟨helement, hread⟩ := readLine_enclosed hopen hsheet.1 hclose
  rw [he]
  refine ⟨by simpa using helement, ?_, ?_⟩
  · rw [List.flatMap_singleton, lineMarks, hread]
    rfl
  · intro word hw h
    have htags : '[' ∉ "<style>".toList ∧ '[' ∉ "</style>".toList := by decide
    refine absurd h (hw.not_inLines ?_)
    simp [hsheet.2, htags, -String.reduceToList]

omit [Measure α] in
/-- The tag that begins a drawing. -/
theorem Drawing.isBareTag_openTag (d : Drawing α) : IsBareTag d.openTag := by
  have hnumber : ∀ n, Within IsInner (Text.ofInt n) :=
    fun n => (within_amount_ofInt n).imp isInner_of_isAmountChar
  have hsize : Within IsInner ("0 0 ".toList ++ Text.ofInt d.canvas.width ++ [' ']
      ++ Text.ofInt d.layout.height) := by
    simp only [within_append]
    exact ⟨⟨⟨by decide, hnumber _⟩, by decide⟩, hnumber _⟩
  refine isBareTag_concat rfl ?_
  simp only [within_append]
  exact ⟨⟨⟨⟨by decide, within_attr_inner (by decide) (by decide)⟩,
    within_attr_amount (by decide) (within_amount_ofInt _)⟩,
    within_attr_amount (by decide) (within_amount_ofInt _)⟩,
    within_attr_inner (by decide) hsize⟩

/-- What stands before the rows of a drawing shows its title. -/
theorem Drawing.shows_head (d : Drawing α) :
    Shows refs (titleMarks d.title)
      ([d.openTag, styleElement] ++ d.titleElements ++ d.axisElements) := by
  have hopen : Shows refs [] [d.openTag] := shows_tag d.isBareTag_openTag (m := none) rfl
  have hlines := ((hopen.append shows_styleElement).append d.shows_titleElements).append
    d.shows_axisElements
  simp only [List.append_nil, List.nil_append] at hlines
  exact hlines

/-- The end of a drawing shows nothing. -/
theorem shows_foot : Shows refs [] ["</svg>".toList] :=
  shows_tag ⟨isTag_literal rfl rfl (by decide), by decide⟩ (m := none) rfl

/-- A drawing shows its title and its rows, and nothing else. -/
theorem Drawing.shows_elements (d : Drawing α) : Shows refs d.marks d.elements := by
  have hrows : Shows refs (d.rows.flatMap Row.marks) (d.rows.flatMap (Row.elements d.barHeight)) :=
    shows_flatMap fun row _ => row.shows_elements d.barHeight
  have hlines := (d.shows_head.append hrows).append shows_foot
  rw [List.append_nil] at hlines
  exact hlines

/-- The tags of a drawing are those of its elements, line by line. -/
theorem Drawing.tagged_text (d : Drawing α) : tagged d.text = d.elements.flatMap readLine := by
  have hshows : Shows (.ofNames []) d.marks d.elements := d.shows_elements
  have hne : d.elements ≠ [] := by
    unfold Drawing.elements
    simp
  rw [Drawing.text, join_append hne, tagged_lines hshows.isElement]

/-- A reader sees the marks of a drawing in its markup. -/
theorem Drawing.marks_text (refs : References) (d : Drawing α) :
    Timeline.marks refs d.text = d.marks := by
  rw [Timeline.marks, d.tagged_text, List.filterMap_flatMap]
  exact d.shows_elements.marks_eq

/-- A word in brackets stands in a drawing only where it stands in the text of a mark. -/
theorem Drawing.exists_mark_of_infix_text {word : Text} (hw : IsBracketed word) {d : Drawing α}
    (h : word <:+: d.text) : ∃ m ∈ d.marks, word <:+: m.text := by
  rw [Drawing.text, infix_concat_iff (hw.not_mem (by decide)) hw.ne_nil,
    infix_join_iff (hw.not_mem (by decide)) hw.ne_nil] at h
  have hshows : Shows (.ofNames []) d.marks d.elements := d.shows_elements
  exact hshows.words word hw h

end Prepress.Timeline
