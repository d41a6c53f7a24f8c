/-
# The outline of a timeline

The outline of a document is what is left of it when its texts are taken away: whether it has a
title, and the tasks of its sections without their labels.  Taking the texts away before drawing or
after it is the same (`Drawing.of?_outline`), and the tags of a drawing are those of its outline
(`Drawing.tags_outline`).

* `Drawing.exists_of?_iff` : a document with tasks within the calendar is drawn exactly when the
  measurements of its canvas are numbers;
* `Document.render_markup` : the markup of the drawing shows the texts and the figures of the
  document in their order, and its tags do not depend on the texts.
-/
import Mathlib.Data.List.Basic
import Prepress.Proofs.Timeline.Markup
import Prepress.Proofs.Timeline.Scale
import Prepress.Proofs.Timeline.Svg

namespace Prepress.Timeline

open Text Markup

variable {α : Type}

/-! ## Documents without their texts -/

/-- A task without its label. -/
def Task.outline (t : Task α) : Task α := { t with label := [] }

/-- A section without its name and the labels of its tasks. -/
def Section.outline (s : Section α) : Section α := ⟨[], s.tasks.map Task.outline⟩

/-- The same title for all titles that are shown, and none for those that are not. -/
def titleOutline : Option Text → Option Text
  | some (_ :: _) => some ['T']
  | _ => none

/-- What is left of a document without its texts.  Two documents with the same outline differ in the
text of their titles, in the names of their sections and in the labels of their tasks only. -/
def Document.outline (d : Document α) : Document α :=
  ⟨titleOutline d.title, d.sections.map Section.outline⟩

theorem Document.tasks_outline (d : Document α) : d.outline.tasks = d.tasks.map Task.outline := by
  unfold tasks outline
  rw [List.flatMap_map, List.map_flatMap]
  rfl

theorem Document.rowCount_outline (d : Document α) : d.outline.rowCount = d.rowCount := by
  rw [rowCount, rowCount, ← length_tasks, ← length_tasks, tasks_outline, List.length_map, outline,
    List.length_map]

/-- An item without its text. -/
def Item.outline : Item α → Item α
  | .heading _ => .heading []
  | .task t => .task t.outline

theorem Document.items_outline (d : Document α) : d.outline.items = d.items.map Item.outline := by
  unfold items outline
  rw [List.flatMap_map, List.map_flatMap]
  refine List.flatMap_congr fun s _ => ?_
  simp [Section.outline, Item.outline]

/-! ## Drawings without their texts -/

/-- A row without its text. -/
def Row.outline : Row α → Row α
  | .heading baseline _ => .heading baseline []
  | .task baseline _ figure => .task baseline [] figure

/-- What is left of a drawing without its texts. -/
def Drawing.outline (d : Drawing α) : Drawing α :=
  { d with title := titleOutline d.title, rows := d.rows.map Row.outline }

variable [Measure α]

/-- Where a row stands does not depend on its text. -/
theorem placeItems_outline (f : Frame α) (l : Layout α) (y : α) (items : List (Item α)) :
    placeItems f l id y (items.map Item.outline) = (placeItems f l id y items).map Row.outline := by
  induction items generalizing y with
  | nil => rfl
  | cons item items ih =>
      rw [List.map_cons, placeItems, placeItems, List.map_cons, ih]
      cases item <;> rfl

/-- The scale of a document does not depend on its texts. -/
theorem Layout.of?_outline (options : Options α) (d : Document α) :
    Layout.of? options d.outline = Layout.of? options d := by
  have hstart : ∀ (first : Task α) (rest : List (Task α)),
      earliestStart first.outline (rest.map Task.outline) = earliestStart first rest := by
    intro first rest
    rw [earliestStart, List.foldl_map]
    rfl
  unfold Layout.of?
  rw [d.tasks_outline, d.rowCount_outline]
  cases d.tasks with
  | nil => rfl
  | cons first rest =>
      rw [List.map_cons]
      dsimp only
      rw [hstart, List.mapM_map]
      rfl

/-- Labels are shown as they are, unless they are cut. -/
theorem Options.label?_of_whole {options : Options α}
    (hl : options.truncateLabels = false) : options.label? = .ok id := by
  rw [label?, hl]
  rfl

/-- A drawing is made or not, and its texts may be taken away before or after. -/
theorem Drawing.of?_outline {options : Options α} (hl : options.truncateLabels = false)
    (d : Document α) :
    Drawing.of? options d.outline = (Drawing.of? options d).map Drawing.outline := by
  unfold Drawing.of?
  rw [Layout.of?_outline, Options.label?_of_whole hl, d.items_outline]
  cases Layout.of? options d with
  | error fault => rfl
  | ok layout =>
      cases Frame.of? options with
      | none => rfl
      | some frame =>
          dsimp only
          rw [placeItems_outline]
          rfl

/-! ## Tags without texts -/

/-- The tags of an element on a line of its own. -/
def lineTags (l : Text) : List Text := (readLine l).map Tagged.tag

omit [Measure α] in
/-- What is between the tags of a text element does not change them. -/
theorem lineTags_textElement {x y attributes : Text} (hx : Within Amount.IsAmountChar x)
    (hy : Within Amount.IsAmountChar y) (ha : '>' ∉ attributes) (content content' : Text) :
    lineTags (textElement x y attributes content)
      = lineTags (textElement x y attributes content') := by
  rw [lineTags, lineTags, (readLine_textElement hx hy ha content).2,
    (readLine_textElement hx hy ha content').2]
  rfl

theorem Drawing.tags_text (d : Drawing α) : tags d.text = d.elements.flatMap lineTags := by
  rw [tags, d.tagged_text, List.map_flatMap]
  rfl

/-- The tags of a row do not depend on its text. -/
theorem Row.tags_outline (barHeight : Int) (row : Row α) :
    (row.outline.elements barHeight).flatMap lineTags
      = (row.elements barHeight).flatMap lineTags := by
  have hx : Within Amount.IsAmountChar "10".toList := by decide
  cases row with
  | heading baseline name =>
      show lineTags _ ++ [] = lineTags _ ++ []
      rw [lineTags_textElement hx (Amount.within_short baseline) (by decide) [] name]
  | task baseline label figure =>
      show lineTags _ ++ _ = lineTags _ ++ _
      rw [lineTags_textElement hx (Amount.within_short baseline) (by decide) [] label]

omit [Measure α] in
/-- The tags of a title do not depend on its text. -/
theorem Drawing.tags_titleElements (d : Drawing α) :
    d.outline.titleElements.flatMap lineTags = d.titleElements.flatMap lineTags := by
  have hy : Within Amount.IsAmountChar "20".toList := by decide
  unfold outline titleElements
  match d.title with
  | none => rfl
  | some [] => rfl
  | some (c :: t) =>
      show lineTags _ ++ [] = lineTags _ ++ []
      rw [lineTags_textElement (Amount.within_amount_ofInt _) hy (by decide) ['T'] (c :: t)]

/-- The tags of a drawing do not depend on its texts. -/
theorem Drawing.tags_outline (d : Drawing α) : tags d.outline.text = tags d.text := by
  have hrows : (d.outline.rows.flatMap (Row.elements d.barHeight)).flatMap lineTags
      = (d.rows.flatMap (Row.elements d.barHeight)).flatMap lineTags := by
    rw [outline, List.flatMap_map, List.flatMap_assoc, List.flatMap_assoc]
    exact List.flatMap_congr fun row _ => row.tags_outline d.barHeight
  rw [Drawing.tags_text, Drawing.tags_text]
  unfold elements
  simp only [List.flatMap_append]
  rw [d.tags_titleElements]
  show _ ++ _ ++ _ ++ (d.outline.rows.flatMap (Row.elements d.barHeight)).flatMap lineTags ++ _ = _
  rw [hrows]
  rfl

/-! ## Documents that are drawn -/

/-- No measurement of the canvas that the rows are placed by is beyond every number. -/
def Options.InRange (options : Options α) : Prop :=
  (Measure.ofInt? options.canvas.timelineWidth : Option α).isSome = true ∧
    (Frame.of? options).isSome = true

/-- A document with tasks within the calendar is drawn exactly when the measurements of its canvas
are numbers. -/
theorem Drawing.exists_of?_iff {options : Options α} (hl : options.truncateLabels = false)
    {d : Document α} (hd : d.tasks ≠ []) (he : ∀ t ∈ d.tasks, t.finish?.isSome = true) :
    (∃ drawing, Drawing.of? options d = .ok drawing) ↔ options.InRange := by
  rw [Options.InRange, ← Layout.exists_of?_iff hd he, Drawing.exists_of?_iff_exists,
    Option.isSome_iff_exists]
  exact and_congr_right fun _ => and_iff_left ⟨id, Options.label?_of_whole hl⟩

/-! ## The markup of a document -/

/-- The mark that a task makes besides its label. -/
def Task.mark (t : Task α) : Mark := if t.milestone then .diamond else .bar

/-- What a drawing of a document has to show: the title, if there is one, and then each section's
name, with the label and the figure of each of its tasks. -/
def Document.marks (d : Document α) : List Mark :=
  titleMarks d.title ++ d.sections.flatMap fun s =>
    .heading s.name :: s.tasks.flatMap fun t => [.label t.label, t.mark]

/-- The mark, or the marks, of an item. -/
def Item.marks : Item α → List Mark
  | .heading name => [.heading name]
  | .task t => [.label t.label, t.mark]

omit [Measure α] in
theorem Document.marks_eq (d : Document α) :
    d.marks = titleMarks d.title ++ d.items.flatMap Item.marks := by
  rw [marks, items, List.flatMap_assoc]
  congr 1
  refine List.flatMap_congr fun s _ => ?_
  rw [List.flatMap_cons, List.flatMap_map]
  rfl

/-- The rows show the items in their order. -/
theorem marks_placeItems (f : Frame α) (l : Layout α) (y : α) (items : List (Item α)) :
    (placeItems f l id y items).flatMap Row.marks = items.flatMap Item.marks := by
  induction items generalizing y with
  | nil => rfl
  | cons item items ih =>
      rw [placeItems, List.flatMap_cons, List.flatMap_cons, ih]
      congr 1
      cases item with
      | heading name => rfl
      | task t =>
          show [Mark.label t.label, (f.figure l y t).mark] = [.label t.label, t.mark]
          rw [Frame.figure, Task.mark]
          cases t.milestone <;> rfl

/-- A drawing shows what its document has to show. -/
theorem Drawing.marks_of? {options : Options α} (hl : options.truncateLabels = false)
    {d : Document α} {drawing : Drawing α} (h : Drawing.of? options d = .ok drawing) :
    drawing.marks = d.marks := by
  obtain ⟨layout, frame, shown, -, -, hs, rfl⟩ := Drawing.of?_eq_ok_iff.1 h
  rw [Options.label?_of_whole hl] at hs
  rw [← Except.ok.inj hs, d.marks_eq, Drawing.marks, marks_placeItems]

/-- A document with tasks within the calendar is drawn exactly when the measurements of its canvas
are numbers.  A reader of the drawing sees the title and then each name and each label in its
place, character by character, with one bar or one diamond for each task, and no text of the
document makes a tag: another document with the same outline has the same tags in the same order. -/
theorem Document.render_markup (refs : References) {options : Options α}
    (hl : options.truncateLabels = false) {d : Document α} (hd : d.tasks ≠ [])
    (he : ∀ t ∈ d.tasks, t.finish?.isSome = true) :
    ((∃ text, (d.render options).result = .ok text) ↔ options.InRange) ∧
      ∀ text, (d.render options).result = .ok text →
        Timeline.marks refs text = d.marks ∧
          ∀ d' : Document α, d'.outline = d.outline →
            ∃ text', (d'.render options).result = .ok text' ∧ tags text' = tags text := by
  have hdrawn : ∀ (e : Document α) (text : Text), (e.render options).result = .ok text ↔
      ∃ drawing, Drawing.of? options e = .ok drawing ∧ drawing.text = text := by
    intro e text
    rw [e.render_result]
    cases Drawing.of? options e <;> simp [Except.map]
  constructor
  · rw [← Drawing.exists_of?_iff hl hd he]
    constructor
    · rintro ⟨text, h⟩
      obtain ⟨drawing, hof, -⟩ := (hdrawn d text).1 h
      exact ⟨drawing, hof⟩
    · rintro ⟨drawing, hof⟩
      exact ⟨drawing.text, (hdrawn d _).2 ⟨drawing, hof, rfl⟩⟩
  · intro text h
    obtain ⟨drawing, hof, rfl⟩ := (hdrawn d text).1 h
    refine ⟨by rw [drawing.marks_text, Drawing.marks_of? hl hof], ?_⟩
    intro d' hsame
    -- the two documents have the same drawing but for its texts
    have hboth : (Drawing.of? options d').map Drawing.outline = .ok drawing.outline := by
      rw [← Drawing.of?_outline hl, hsame, Drawing.of?_outline hl, hof]
      rfl
    cases hof' : Drawing.of? options d' with
    | error fault =>
        rw [hof'] at hboth
        simp [Except.map] at hboth
    | ok drawing' =>
        rw [hof'] at hboth
        have houtline : drawing'.outline = drawing.outline := Except.ok.inj hboth
        refine ⟨drawing'.text, (hdrawn d' _).2 ⟨drawing', hof', rfl⟩, ?_⟩
        rw [← drawing'.tags_outline, houtline, drawing.tags_outline]

/-- A bar and a milestone under two headings, with the given texts. -/
def twoHeadings (title first second bar milestone : Text) : Document Rat :=
  ⟨some title, [⟨first, [⟨bar, ⟨0, by decide⟩, 3, false⟩]⟩,
    ⟨second, [⟨milestone, ⟨dayMicros, by decide⟩, 1, true⟩]⟩]⟩

/-- Texts that look like tags, references and attributes are shown as they are. -/
theorem Document.render_markup_tagLike :
    ∃ text text',
      ((twoHeadings "</text><svg>".toList "\" class=\"label".toList [] "&lt;".toList
        "<rect/>".toList).render Options.standard).result = .ok text ∧
      Timeline.marks (.ofNames []) text =
        [.heading "</text><svg>".toList, .heading "\" class=\"label".toList, .label "&lt;".toList,
          .bar, .heading [], .label "<rect/>".toList, .diamond] ∧
      ((twoHeadings ['T'] ['A'] ['B'] ['c'] ['d']).render Options.standard).result = .ok text' ∧
      tags text' = tags text := by
  have hd : (twoHeadings "</text><svg>".toList "\" class=\"label".toList [] "&lt;".toList
      "<rect/>".toList).tasks ≠ [] := by
    decide
  have he : ∀ t ∈ (twoHeadings "</text><svg>".toList "\" class=\"label".toList [] "&lt;".toList
      "<rect/>".toList).tasks, t.finish?.isSome = true := by
    decide +kernel
  have hrange : (Options.standard : Options Rat).InRange :=
    ⟨by decide +kernel, by decide +kernel⟩
  have hl : (Options.standard : Options Rat).truncateLabels = false := rfl
  obtain ⟨hdrawn, hshown⟩ := render_markup (.ofNames []) hl hd he
  obtain ⟨text, htext⟩ := hdrawn.2 hrange
  obtain ⟨hmarks, hsame⟩ := hshown text htext
  obtain ⟨text', htext', htags⟩ := hsame (twoHeadings ['T'] ['A'] ['B'] ['c'] ['d']) rfl
  exact ⟨text, text', htext, hmarks, htext', htags⟩

end Prepress.Timeline
