/-
# What a timeline is drawn with

A block is rendered to nothing, to a message or to a drawing (`render_cases`).  A drawing is
written with the characters of its texts and with plain characters, and so is what takes the place
of a block (`within_render`).
-/
import Prepress.Proofs.Font.Fit
import Prepress.Proofs.Markup.References
import Prepress.Proofs.Number.Amount
import Prepress.Proofs.Timeline.Reading
import Prepress.Timeline.Svg

namespace Prepress.Timeline

open Text Markup Amount

variable {α : Type} {P : Char → Prop}

/-! ## Dates -/

theorem within_hyphenated (d : Date) : Within IsPlain (Calendar.hyphenated d) := by
  have hmark : Within IsPlain ['-'] := by decide
  rw [Calendar.hyphenated]
  simp only [within_append]
  exact ⟨⟨⟨⟨within_ofNat _, hmark⟩, within_zeroPadded _ _⟩, hmark⟩, within_zeroPadded _ _⟩

theorem within_monthAndDay (d : Date) : Within IsPlain (Calendar.monthAndDay d) := by
  have hnames : ∀ name ∈ Calendar.monthAbbreviations, Within IsPlain name := by decide
  have hmonth : Within IsPlain (Calendar.monthAbbreviations.getD (d.month - 1) []) := by
    rw [List.getD_eq_getElem?_getD]
    cases hm : Calendar.monthAbbreviations[d.month - 1]? with
    | none => exact within_nil
    | some name => exact hnames name (List.mem_of_getElem? hm)
  rw [Calendar.monthAndDay]
  simp only [within_append]
  exact ⟨⟨hmonth, by decide⟩, within_ofNat _⟩

/-! ## Rows -/

/-- The text of a row lies within a class of characters. -/
def Row.IsWithin (P : Char → Prop) : Row α → Prop
  | .heading _ name => Within P name
  | .task _ label _ => Within P label

/-- The text of an item lies within a class of characters. -/
def Item.IsWithin (P : Char → Prop) : Item α → Prop
  | .heading name => Within P name
  | .task t => Within P t.label

theorem isWithin_of_mem_items {d : Document α} (h : d.IsWithin P) {item : Item α}
    (hi : item ∈ d.items) : item.IsWithin P := by
  obtain ⟨s, hs, hmem⟩ := List.mem_flatMap.1 hi
  rcases List.mem_cons.1 hmem with rfl | hmem
  · exact h.names s hs
  · obtain ⟨t, ht, rfl⟩ := List.mem_map.1 hmem
    exact h.labels s hs t ht

variable [Measure α]

/-- The rows show the texts of the items. -/
theorem isWithin_of_mem_placeItems (f : Frame α) (l : Layout α) {shown : Text → Text}
    (hshown : ∀ t, Within P t → Within P (shown t)) {y : α} {items : List (Item α)}
    (h : ∀ item ∈ items, item.IsWithin P) {row : Row α}
    (hr : row ∈ placeItems f l shown y items) : row.IsWithin P := by
  induction items generalizing y with
  | nil => simp [placeItems] at hr
  | cons item items ih =>
      rw [placeItems, List.mem_cons] at hr
      rcases hr with rfl | hr
      · have hitem := h item (by simp)
        cases item with
        | heading name => exact hitem
        | task t => exact hshown _ hitem
      · exact ih (fun i hi => h i (List.mem_cons_of_mem item hi)) hr

/-- A label that is cut is shown with its own characters and three points. -/
theorem within_fit (hP : ∀ c, IsPlain c → P c) (style : Font.Style α) (limit : Value) {t : Text}
    (ht : Within P t) : Within P (style.fit limit t) := by
  rw [Font.Style.fit, Font.cutToFit]
  split
  · exact ht
  · rw [within_append]
    refine ⟨ht.sublist ?_, within_of_isPlain hP (by decide)⟩
    exact (trimEnd_isPrefix _).sublist.trans (Font.shorten_isPrefix _ t).sublist

theorem within_of_label? (hP : ∀ c, IsPlain c → P c) {options : Options α}
    {shown : Text → Text} (h : options.label? = .ok shown) {t : Text} (ht : Within P t) :
    Within P (shown t) := by
  rw [Options.label?] at h
  split at h
  · split at h
    · simp at h
    · rw [← Except.ok.inj h]
      exact within_fit hP _ _ ht
  · rw [← Except.ok.inj h]
    exact ht

/-! ## Drawings -/

/-- A drawing is made from a scale, the frame of the canvas and a way to show labels, and it shows
the title, the ticks of the scale and the items of the document. -/
theorem Drawing.of?_eq_ok_iff {options : Options α} {d : Document α} {drawing : Drawing α} :
    Drawing.of? options d = .ok drawing ↔
      ∃ layout frame shown, Layout.of? options d = .ok layout ∧ Frame.of? options = some frame ∧
        options.label? = .ok shown ∧
        drawing = ⟨options.canvas, options.barHeight, layout, d.title, layout.ticks,
          placeItems frame layout shown frame.top d.items⟩ := by
  rw [Drawing.of?]
  cases Layout.of? options d with
  | error fault => simp
  | ok layout =>
      cases Frame.of? options with
      | none => simp
      | some frame =>
          cases options.label? with
          | error fault => simp
          | ok shown => simp [eq_comm]

theorem Drawing.exists_of?_iff_exists {options : Options α} {d : Document α} :
    (∃ drawing, Drawing.of? options d = .ok drawing) ↔
      (∃ layout, Layout.of? options d = .ok layout) ∧ (∃ frame, Frame.of? options = some frame) ∧
        ∃ shown, options.label? = .ok shown := by
  constructor
  · rintro ⟨drawing, h⟩
    obtain ⟨layout, frame, shown, hlayout, hframe, hshown, -⟩ := Drawing.of?_eq_ok_iff.1 h
    exact ⟨⟨layout, hlayout⟩, ⟨frame, hframe⟩, ⟨shown, hshown⟩⟩
  · rintro ⟨⟨layout, hlayout⟩, ⟨frame, hframe⟩, ⟨shown, hshown⟩⟩
    exact ⟨_, Drawing.of?_eq_ok_iff.2 ⟨layout, frame, shown, hlayout, hframe, hshown, rfl⟩⟩

/-- All texts of a drawing lie within a class of characters. -/
structure Drawing.IsWithin (P : Char → Prop) (d : Drawing α) : Prop where
  title : ∀ t ∈ d.title, Within P t
  rows : ∀ row ∈ d.rows, row.IsWithin P

/-- A drawing shows the texts of its document. -/
theorem Drawing.isWithin_of_of? (hP : ∀ c, IsPlain c → P c) {options : Options α}
    {d : Document α} {drawing : Drawing α} (h : Drawing.of? options d = .ok drawing)
    (hd : d.IsWithin P) : drawing.IsWithin P := by
  obtain ⟨layout, frame, shown, -, -, hl, rfl⟩ := Drawing.of?_eq_ok_iff.1 h
  refine ⟨hd.title, ?_⟩
  intro row hr
  refine isWithin_of_mem_placeItems _ _ ?_ (fun item hi => isWithin_of_mem_items hd hi) hr
  exact fun t ht => within_of_label? hP hl ht

/-! ## Elements -/

/-- An attribute is written with plain characters and those of its value. -/
theorem within_attr (hP : ∀ c, IsPlain c → P c) {name value : Text} (hn : Within IsPlain name)
    (hv : Within P value) : Within P (attr (String.ofList name) value) := by
  have hname : Within P (' ' :: (String.ofList name).toList) :=
    within_cons.2 ⟨hP ' ' (by decide), within_plain hP hn⟩
  exact ((hname.append (within_plain hP (by decide))).append hv).append
    (within_plain hP (by decide))

/-- An attribute with a fixed value is plain. -/
theorem within_attr_plain (hP : ∀ c, IsPlain c → P c) {name value : Text}
    (hn : Within IsPlain name) (hv : Within IsPlain value) :
    Within P (attr (String.ofList name) (String.ofList value).toList) :=
  within_attr hP hn (within_plain hP hv)

theorem within_textElement (hP : ∀ c, IsPlain c → P c) {x y attributes content : Text}
    (hx : Within P x) (hy : Within P y) (ha : Within P attributes) (hc : Within P content) :
    Within P (textElement x y attributes content) :=
  ((((((within_plain hP (by decide)).append (within_attr hP (by decide) hx)).append
    (within_attr hP (by decide) hy)).append ha).append
    (within_of_isPlain hP (by decide))).append (within_escape hP hc)).append
    (within_plain hP (by decide))

theorem within_styleElement : Within IsPlain styleElement := by
  unfold styleElement
  simp only [String.toList_append, within_append]
  exact ⟨⟨⟨within_literal (by decide), within_literal (by decide)⟩, within_literal (by decide)⟩,
    within_literal (by decide)⟩

section Elements

variable (hP : ∀ c, IsPlain c → P c)

include hP

theorem within_short (x : α) : Within P (Amount.short x) :=
  within_of_isPlain hP (within_isPlain_short x)

theorem within_tickElements (t : Tick α) : ∀ l ∈ t.elements, Within P l := by
  intro l hl
  rw [Tick.elements, List.mem_cons, List.mem_singleton] at hl
  rcases hl with rfl | rfl
  · have hx : Within P (Amount.short t.x) := within_short hP _
    exact ((((((within_plain hP (by decide)).append (within_attr hP (by decide) hx)).append
      (within_attr hP (by decide) (within_of_isPlain hP (by decide)))).append
      (within_attr hP (by decide) hx)).append
      (within_attr hP (by decide) (within_of_isPlain hP (by decide)))).append
      (within_attr_plain hP (by decide) (by decide))).append (within_plain hP (by decide))
  · exact within_textElement hP (within_short hP _) (within_plain hP (by decide))
      (within_attr_plain hP (by decide) (by decide)) (within_of_isPlain hP (within_monthAndDay _))

theorem within_point (x y : α) : Within P (point x y) :=
  ((within_short hP x).append (within_of_isPlain hP (by decide))).append (within_short hP y)

theorem within_figureElements (barHeight : Int) (f : Figure α) :
    ∀ l ∈ f.elements barHeight, Within P l := by
  intro l hl
  cases f with
  | diamond x y size =>
      rw [Figure.elements, List.mem_singleton] at hl
      have hpoints : Within P (join [' '] [point x (y - size), point (x + size) y,
          point x (y + size), point (x - size) y]) := by
        refine within_join (within_of_isPlain hP (by decide)) ?_
        simp only [List.forall_mem_cons, within_point hP, true_and]
        simp
      rw [hl]
      exact (((within_plain hP (by decide)).append (within_attr hP (by decide) hpoints)).append
        (within_attr_plain hP (by decide) (by decide))).append (within_plain hP (by decide))
  | bar x y width start =>
      rw [Figure.elements, List.mem_cons, List.mem_singleton] at hl
      rcases hl with rfl | rfl
      · have hheight : Within P (Text.ofInt barHeight) := within_of_isPlain hP (within_ofInt _)
        exact (((((((within_plain hP (by decide)).append
          (within_attr hP (by decide) (within_short hP _))).append
          (within_attr hP (by decide) (within_short hP _))).append
          (within_attr hP (by decide) (within_short hP _))).append
          (within_attr hP (by decide) hheight)).append
          (within_attr hP (by decide) (within_of_isPlain hP (by decide)))).append
          (within_attr_plain hP (by decide) (by decide))).append (within_plain hP (by decide))
      · exact within_textElement hP (within_short hP _) (within_short hP _)
          ((within_attr_plain hP (by decide) (by decide)).append
            (within_attr_plain hP (by decide) (by decide)))
          (within_of_isPlain hP (within_hyphenated _))

theorem within_rowElements (barHeight : Int) {row : Row α} (hr : row.IsWithin P) :
    ∀ l ∈ row.elements barHeight, Within P l := by
  intro l hl
  cases row with
  | heading baseline name =>
      rw [Row.elements, List.mem_singleton] at hl
      rw [hl]
      exact within_textElement hP (within_plain hP (by decide)) (within_short hP _)
        (within_attr_plain hP (by decide) (by decide)) hr
  | task baseline label figure =>
      rw [Row.elements, List.mem_cons] at hl
      rcases hl with rfl | hl
      · exact within_textElement hP (within_plain hP (by decide)) (within_short hP _)
          (within_attr_plain hP (by decide) (by decide)) hr
      · exact within_figureElements hP barHeight figure l hl

omit [Measure α] in
theorem within_titleElements {d : Drawing α} (hd : d.IsWithin P) :
    ∀ l ∈ d.titleElements, Within P l := by
  intro l hl
  rw [Drawing.titleElements] at hl
  split at hl
  · next c t ht =>
      rw [List.mem_singleton] at hl
      rw [hl]
      exact within_textElement hP (within_of_isPlain hP (within_ofInt _))
        (within_plain hP (by decide)) (within_attr_plain hP (by decide) (by decide))
        (hd.title (c :: t) ht)
  · simp at hl

theorem within_axisElements (d : Drawing α) : ∀ l ∈ d.axisElements, Within P l := by
  have hnumber : ∀ n, Within P (Text.ofInt n) := fun n => within_of_isPlain hP (within_ofInt n)
  intro l hl
  simp only [Drawing.axisElements, List.mem_append, List.mem_singleton, List.mem_flatMap,
    -String.reduceToList] at hl
  rcases hl with (hl | ⟨t, -, hl⟩) | hl
  · rw [hl]
    refine ((within_plain hP (by decide)).append (within_attr hP (by decide) ?_)).append
      (within_of_isPlain hP (by decide))
    exact ((((within_plain hP (by decide)).append (hnumber _)).append
      (within_plain hP (by decide))).append (hnumber _)).append (within_plain hP (by decide))
  · exact within_tickElements hP t l hl
  · exact hl ▸ within_plain hP (by decide)

/-- The elements of a drawing are written with the characters of its texts and plain characters. -/
theorem Drawing.within_elements {d : Drawing α} (hd : d.IsWithin P) :
    ∀ l ∈ d.elements, Within P l := by
  have hnumber : ∀ n, Within P (Text.ofInt n) := fun n => within_of_isPlain hP (within_ofInt n)
  have hopen : Within P d.openTag := by
    refine (((((within_plain hP (by decide)).append
      (within_attr_plain hP (by decide) (by decide))).append
      (within_attr hP (by decide) (hnumber _))).append
      (within_attr hP (by decide) (hnumber _))).append (within_attr hP (by decide) ?_)).append
      (within_of_isPlain hP (by decide))
    exact (((within_plain hP (by decide)).append (hnumber _)).append
      (within_of_isPlain hP (by decide))).append (hnumber _)
  intro l hl
  simp only [Drawing.elements, List.mem_append, List.mem_cons, List.not_mem_nil, or_false,
    List.mem_flatMap, -String.reduceToList] at hl
  rcases hl with ((((hl | hl) | hl) | hl) | ⟨row, hr, hl⟩) | hl
  · rw [hl]
    exact hopen
  · rw [hl]
    exact within_of_isPlain hP within_styleElement
  · exact within_titleElements hP hd l hl
  · exact within_axisElements hP d l hl
  · exact within_rowElements hP d.barHeight (hd.rows row hr) l hl
  · rw [hl]
    exact within_plain hP (by decide)

/-- A drawing has a line feed after each element. -/
theorem Drawing.within_text (hn : P '\n') {d : Drawing α} (hd : d.IsWithin P) :
    Within P d.text := by
  have hline : Within P ['\n'] := within_cons.2 ⟨hn, within_nil⟩
  rw [Drawing.text, within_append]
  exact ⟨within_join hline (d.within_elements hP hd), hline⟩

end Elements

/-! ## Tags

No line of a drawing begins with a text of the document. -/

theorem Tick.head?_of_mem_elements (t : Tick α) : ∀ l ∈ t.elements, l.head? = some '<' := by
  intro l hl
  rw [Tick.elements, List.mem_cons, List.mem_singleton] at hl
  rcases hl with rfl | rfl <;> rfl

theorem Figure.head?_of_mem_elements (barHeight : Int) (f : Figure α) :
    ∀ l ∈ f.elements barHeight, l.head? = some '<' := by
  intro l hl
  cases f with
  | diamond x y size =>
      rw [List.mem_singleton.1 hl]
      rfl
  | bar x y width start =>
      rw [Figure.elements, List.mem_cons, List.mem_singleton] at hl
      rcases hl with rfl | rfl <;> rfl

theorem Row.head?_of_mem_elements (barHeight : Int) (row : Row α) :
    ∀ l ∈ row.elements barHeight, l.head? = some '<' := by
  intro l hl
  cases row with
  | heading baseline name =>
      rw [List.mem_singleton.1 hl]
      rfl
  | task baseline label figure =>
      rw [Row.elements, List.mem_cons] at hl
      rcases hl with rfl | hl
      · rfl
      · exact figure.head?_of_mem_elements barHeight l hl

omit [Measure α] in
theorem Drawing.head?_of_mem_titleElements (d : Drawing α) :
    ∀ l ∈ d.titleElements, l.head? = some '<' := by
  intro l hl
  rw [Drawing.titleElements] at hl
  split at hl
  · rw [List.mem_singleton.1 hl]
    rfl
  · simp at hl

theorem Drawing.head?_of_mem_axisElements (d : Drawing α) :
    ∀ l ∈ d.axisElements, l.head? = some '<' := by
  intro l hl
  simp only [Drawing.axisElements, List.mem_append, List.mem_singleton, List.mem_flatMap,
    -String.reduceToList] at hl
  rcases hl with (rfl | ⟨t, -, hl⟩) | rfl
  · rfl
  · exact t.head?_of_mem_elements l hl
  · rfl

theorem head?_styleElement : styleElement.head? = some '<' := by
  unfold styleElement
  rw [String.toList_append, String.toList_append, String.toList_append, String.toList_ofList]
  rfl

/-- Every element begins with a tag. -/
theorem Drawing.head?_of_mem_elements {d : Drawing α} :
    ∀ l ∈ d.elements, l.head? = some '<' := by
  intro l hl
  simp only [Drawing.elements, List.mem_append, List.mem_cons, List.not_mem_nil, or_false,
    List.mem_flatMap, -String.reduceToList] at hl
  rcases hl with ((((hl | hl) | hl) | hl) | ⟨row, -, hl⟩) | hl
  · rw [hl]
    rfl
  · rw [hl]
    exact head?_styleElement
  · exact d.head?_of_mem_titleElements l hl
  · exact d.head?_of_mem_axisElements l hl
  · exact row.head?_of_mem_elements d.barHeight l hl
  · rw [hl]
    rfl

/-! ## Blocks -/

/-- The markup of a document is that of its drawing. -/
theorem Document.render_result (options : Options α) (d : Document α) :
    (d.render options).result = (Drawing.of? options d).map Drawing.text := by
  rw [Document.render]
  split <;> simp_all [Except.map]

theorem render_of_blank {options : Options α} {text : Text} (h : isAllBlank text = true) :
    (render options text).result = .ok [] := by
  rw [render, if_pos h]

theorem render_of_taskCount_eq_zero {options : Options α} {text : Text}
    (h : isAllBlank text = false)
    (hcount : (Document.read options.ignoredDirectives text : Document α).taskCount = 0) :
    (render options text).result = .ok options.emptyMessage := by
  unfold Document.read at hcount
  rw [render, h, if_neg (by simp)]
  dsimp only
  rw [if_pos hcount]

theorem render_of_taskCount_ne_zero {options : Options α} {text : Text}
    (h : isAllBlank text = false)
    (hcount : (Document.read options.ignoredDirectives text : Document α).taskCount ≠ 0) :
    (render options text).result
      = (Drawing.of? options (Document.read options.ignoredDirectives text)).map Drawing.text := by
  unfold Document.read at hcount
  rw [render, h, if_neg (by simp)]
  dsimp only
  rw [if_neg hcount]
  exact Document.render_result options _

/-- What a block is rendered to: nothing if it is blank, the message of the options if there is no
task in it, and else the drawing of its document. -/
theorem render_cases {options : Options α} {body text : Text}
    (h : (render options body).result = .ok text) :
    (isAllBlank body = true ∧ text = []) ∨
      (isAllBlank body = false ∧ (text = options.emptyMessage ∨
        ∃ drawing : Drawing α,
          Drawing.of? options (.ofEntries (entries options.ignoredDirectives body)) = .ok drawing ∧
            text = drawing.text)) := by
  cases hblank : isAllBlank body with
  | true =>
      rw [render_of_blank hblank] at h
      exact Or.inl ⟨rfl, (Except.ok.inj h).symm⟩
  | false =>
      refine Or.inr ⟨rfl, ?_⟩
      by_cases hcount :
          (Document.read options.ignoredDirectives body : Document α).taskCount = 0
      · rw [render_of_taskCount_eq_zero hblank hcount] at h
        exact Or.inl (Except.ok.inj h).symm
      · rw [render_of_taskCount_ne_zero hblank hcount] at h
        cases hdrawing : Drawing.of? options (Document.read options.ignoredDirectives body) with
        | error fault =>
            rw [hdrawing] at h
            exact absurd h (by simp [Except.map])
        | ok drawing =>
            rw [hdrawing] at h
            exact Or.inr ⟨drawing, hdrawing, (Except.ok.inj h).symm⟩

/-- A drawing begins with a tag. -/
theorem Drawing.head?_text (d : Drawing α) : d.text.head? = some '<' := rfl

/-- A block is drawn with its own characters, those of the message, plain characters and line
feeds. -/
theorem within_render (hP : ∀ c, IsPlain c → P c) (hn : P '\n') {options : Options α}
    (hm : Within P options.emptyMessage) {body text : Text} (hb : Within P body)
    (h : (render options body).result = .ok text) : Within P text := by
  rcases render_cases h with ⟨-, rfl⟩ | ⟨-, rfl | ⟨drawing, hd, rfl⟩⟩
  · exact within_nil
  · exact hm
  · exact Drawing.within_text hP hn
      (Drawing.isWithin_of_of? hP hd (Document.isWithin_ofEntries hb))

end Prepress.Timeline
