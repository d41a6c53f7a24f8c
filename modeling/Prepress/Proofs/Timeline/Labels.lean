/-
# The labels of a drawing

A reader of the markup finds the label of a task in the element with the class of labels.  Every
row of a task has one such element, with the task's label in it, and nothing else in a drawing is
taken for one (`labelContents_elements`).
-/
import Prepress.Proofs.Markup.Values
import Prepress.Proofs.Timeline.Markup
import Prepress.Proofs.Timeline.Svg

namespace Prepress.Timeline

open Text Markup

/-! ## Labels in markup -/

/-- What stands before the content of a label. -/
def labelMark : Text := "class=\"label\">".toList

/-- The contents of the label elements of a text. -/
def labelContents (t : Text) : List Text := valuesAfter labelMark '<' t

/-- A text adds certain contents of labels. -/
abbrev AddsLabels (contents : List Text) (t : Text) : Prop := Adds labelMark '<' contents t

theorem addsLabels_of_not_mem {t : Text} (h : 'c' ∉ t) : AddsLabels [] t :=
  adds_of_head (c := 'c') (by rfl) h

/-- No label begins in the content of an element. -/
theorem addsLabels_content (t : Text) : AddsLabels [] (escape t ++ "</text>".toList) := by
  have hquote : ¬ labelMark <:+: escape t :=
    fun h => not_mem_escape (c := '"') (by simp) t (h.subset (by decide))
  have hbracket : AddsLabels [] (escape t ++ ['<']) :=
    adds_of_nowhere (nowhere_append_singleton (by decide) hquote)
  have hsplit : escape t ++ "</text>".toList = escape t ++ ['<'] ++ "/text>".toList := by
    rw [List.append_assoc]
    rfl
  -- no quotation mark is left in the content, so the mark of a label cannot begin there
  rw [hsplit]
  exact hbracket.append (adds_literal (by decide))

/-! ## Elements -/

variable {α : Type} [Measure α]

theorem not_mem_short (x : α) : 'c' ∉ Amount.short x :=
  fun h => absurd (Amount.within_short x 'c' h) (by decide)

theorem not_mem_number (n : Int) : 'c' ∉ Text.ofInt n :=
  not_mem_ofInt (by decide) (by decide) n

/-- An attribute adds no label if there is none in its name, and no sign of one in its value. -/
theorem addsLabels_attr {name value : Text} (hn : 'c' ∉ name) (hv : 'c' ∉ value) :
    AddsLabels [] (attr (String.ofList name) value) :=
  addsLabels_of_not_mem (not_mem_attr (by decide) hn hv)

/-- Whether a fixed attribute adds no label is seen from the characters it is written with. -/
theorem addsLabels_attr_literal {name value m : Text} (hm : labelMark = m)
    (h : isApart m (' ' :: name ++ ['=', '"'] ++ value ++ ['"']) = true) :
    AddsLabels [] (attr (String.ofList name) (String.ofList value).toList) := by
  subst hm
  unfold attr
  rw [String.toList_ofList, String.toList_ofList, String.toList_ofList, String.toList_ofList]
  exact adds_of_isApart h

/-- A text element of another class adds no label. -/
theorem addsLabels_textElement {x y attributes : Text} (hx : 'c' ∉ x) (hy : 'c' ∉ y)
    (ha : AddsLabels [] attributes) (content : Text) :
    AddsLabels [] (textElement x y attributes content) := by
  unfold textElement
  rw [List.append_assoc]
  exact (((((adds_literal (by decide)).append (addsLabels_attr (by decide) hx)).append
    (addsLabels_attr (by decide) hy)).append ha).append (addsLabels_of_not_mem (by decide))).append
    (addsLabels_content content)

/-- A text element of the class of labels adds its content. -/
theorem addsLabels_labelElement {x y : Text} (hx : 'c' ∉ x) (hy : 'c' ∉ y) (content : Text) :
    AddsLabels [escape content] (textElement x y (attr "class" "label".toList) content) := by
  have hopen : AddsLabels [] ("<text".toList ++ attr "x" x ++ attr "y" y ++ [' ']) :=
    (((adds_literal (by decide)).append (addsLabels_attr (by decide) hx)).append
      (addsLabels_attr (by decide) hy)).append (addsLabels_of_not_mem (by decide))
  have hsplit : textElement x y (attr "class" "label".toList) content
      = ("<text".toList ++ attr "x" x ++ attr "y" y ++ [' '])
        ++ (labelMark ++ (escape content ++ '<' :: "/text>".toList)) := by
    have hmark : attr "class" "label".toList ++ ['>'] = [' '] ++ labelMark := by
      unfold attr labelMark
      rw [String.toList_ofList, String.toList_ofList, String.toList_ofList, String.toList_ofList,
        String.toList_ofList]
      rfl
    unfold textElement
    rw [List.append_assoc _ (attr "class" "label".toList), hmark]
    simp only [List.append_assoc]
    rfl
  rw [hsplit]
  refine hopen.append (adds_mark String.toList_ofList (by decide)
    (not_mem_escape (by simp) content) ?_)
  exact addsLabels_content content

theorem addsLines_tickElements (t : Tick α) : AddsLines labelMark '<' [] t.elements := by
  have hline : AddsLabels [] ("<line".toList ++ attr "x1" (Amount.short t.x) ++ attr "y1" ['0']
      ++ attr "x2" (Amount.short t.x) ++ attr "y2" ['8'] ++ attr "stroke" "#ccc".toList
      ++ " />".toList) :=
    ((((((adds_literal (by decide)).append
      (addsLabels_attr (by decide) (not_mem_short _))).append
      (addsLabels_attr (by decide) (by decide))).append
      (addsLabels_attr (by decide) (not_mem_short _))).append
      (addsLabels_attr (by decide) (by decide))).append
      (addsLabels_attr_literal String.toList_ofList (by decide))).append
      (adds_literal (by decide))
  refine .of_forall ?_
  simp only [Tick.elements, List.forall_mem_cons]
  refine ⟨hline, ?_, by simp⟩
  exact addsLabels_textElement (not_mem_short _) (by decide)
    (addsLabels_attr_literal String.toList_ofList (by decide)) _

theorem addsLines_figureElements (barHeight : Int) (f : Figure α) :
    AddsLines labelMark '<' [] (f.elements barHeight) := by
  refine .of_forall ?_
  cases f with
  | diamond x y size =>
      have hpoints := not_mem_corners (c := 'c') (by decide) (by decide) x y size
      simp only [Figure.elements, List.forall_mem_cons]
      refine ⟨?_, by simp⟩
      exact (((adds_literal (by decide)).append (addsLabels_attr (by decide) hpoints)).append
        (addsLabels_attr_literal String.toList_ofList (by decide))).append
        (adds_literal (by decide))
  | bar x y width start =>
      have hrect : AddsLabels [] ("<rect".toList ++ attr "x" (Amount.short x)
          ++ attr "y" (Amount.short y) ++ attr "width" (Amount.short width)
          ++ attr "height" (Text.ofInt barHeight) ++ attr "rx" ['3']
          ++ attr "class" "task".toList ++ " />".toList) :=
        (((((((adds_literal (by decide)).append
          (addsLabels_attr (by decide) (not_mem_short _))).append
          (addsLabels_attr (by decide) (not_mem_short _))).append
          (addsLabels_attr (by decide) (not_mem_short _))).append
          (addsLabels_attr (by decide) (not_mem_number _))).append
          (addsLabels_attr (by decide) (by decide))).append
          (addsLabels_attr_literal String.toList_ofList (by decide))).append
          (adds_literal (by decide))
      simp only [Figure.elements, List.forall_mem_cons]
      refine ⟨hrect, ?_, by simp⟩
      exact addsLabels_textElement (not_mem_short _) (not_mem_short _)
        ((addsLabels_attr (by decide) (by decide)).append
          (addsLabels_attr (by decide) (by decide))) _

/-- The labels of a row. -/
def Row.labels : Row α → List Text
  | .heading _ _ => []
  | .task _ label _ => [label]

/-- A row adds its labels. -/
theorem addsLines_rowElements (barHeight : Int) (row : Row α) :
    AddsLines labelMark '<' (row.labels.map escape) (row.elements barHeight) := by
  cases row with
  | heading baseline name =>
      exact .single (addsLabels_textElement (by decide) (not_mem_short _)
        (addsLabels_attr_literal String.toList_ofList (by decide)) _)
  | task baseline label figure =>
      exact .cons (addsLabels_labelElement (by decide) (not_mem_short _) label)
        (addsLines_figureElements barHeight figure)

/-! ## Drawings -/

/-- The labels of a drawing. -/
def Drawing.labels (d : Drawing α) : List Text := d.rows.flatMap Row.labels

omit [Measure α] in
theorem addsLines_titleElements (d : Drawing α) : AddsLines labelMark '<' [] d.titleElements := by
  rw [Drawing.titleElements]
  split
  · exact .single (addsLabels_textElement (not_mem_number _) (by decide)
      (addsLabels_attr_literal String.toList_ofList (by decide)) _)
  · exact .nil

theorem addsLines_axisElements (d : Drawing α) : AddsLines labelMark '<' [] d.axisElements := by
  have hplace : 'c' ∉ "translate(".toList ++ Text.ofInt d.canvas.labelWidth ++ ", ".toList
      ++ Text.ofInt (d.canvas.headerHeight - 8) ++ ")".toList := by
    simp only [List.mem_append, not_or]
    exact ⟨⟨⟨⟨by decide, not_mem_number _⟩, by decide⟩, not_mem_number _⟩, by decide⟩
  have hopen : AddsLabels [] ("<g".toList ++ attr "transform" ("translate(".toList
      ++ Text.ofInt d.canvas.labelWidth ++ ", ".toList ++ Text.ofInt (d.canvas.headerHeight - 8)
      ++ ")".toList) ++ ['>']) :=
    ((adds_literal (by decide)).append (addsLabels_attr (by decide) hplace)).append
      (addsLabels_of_not_mem (by decide))
  have hticks : AddsLines labelMark '<' [] (d.ticks.flatMap Tick.elements) := by
    have hnone : (d.ticks.flatMap fun _ => ([] : List Text)) = [] := by simp
    rw [← hnone]
    exact .flatMap fun t _ => addsLines_tickElements t
  exact ((AddsLines.single hopen).append hticks).append
    (.single (adds_literal (by decide)))

/-- A drawing adds the labels of its rows. -/
theorem addsLines_elements (d : Drawing α) :
    AddsLines labelMark '<' (d.labels.map escape) d.elements := by
  have hopen : AddsLabels [] d.openTag := by
    have hsize : 'c' ∉ "0 0 ".toList ++ Text.ofInt d.canvas.width ++ [' ']
        ++ Text.ofInt d.layout.height := by
      simp only [List.mem_append, not_or]
      exact ⟨⟨⟨by decide, not_mem_number _⟩, by decide⟩, not_mem_number _⟩
    exact (((((adds_literal (by decide)).append
      (addsLabels_attr_literal String.toList_ofList (by decide))).append
      (addsLabels_attr (by decide) (not_mem_number _))).append
      (addsLabels_attr (by decide) (not_mem_number _))).append
      (addsLabels_attr (by decide) hsize)).append (addsLabels_of_not_mem (by decide))
  have hstyle : AddsLabels [] styleElement := by
    unfold styleElement
    rw [String.toList_append, String.toList_append, String.toList_append]
    exact (((adds_literal (by decide)).append (adds_literal (by decide))).append
      (adds_literal (by decide))).append (adds_literal (by decide))
  have hrows : AddsLines labelMark '<' (d.labels.map escape)
      (d.rows.flatMap (Row.elements d.barHeight)) := by
    rw [Drawing.labels, List.map_flatMap]
    exact .flatMap fun row _ => addsLines_rowElements d.barHeight row
  have hlines := ((((AddsLines.cons hopen (.single hstyle)).append
    (addsLines_titleElements d)).append (addsLines_axisElements d)).append hrows).append
    (.single (adds_literal (l := ['<', '/', 's', 'v', 'g', '>']) (by decide)))
  rw [List.append_nil] at hlines
  exact hlines

/-- The labels found in the markup of a drawing are its labels, escaped, whatever ends its lines. -/
theorem labelContents_elements (d : Drawing α) {lineEnd : Text} (h : 'c' ∉ lineEnd) :
    labelContents (d.elements.flatMap (· ++ lineEnd)) = d.labels.map escape :=
  ((addsLines_elements d).withEnds (addsLabels_of_not_mem h)).valuesAfter_eq

end Prepress.Timeline
