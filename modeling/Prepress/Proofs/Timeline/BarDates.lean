/-
# The dates in the bars

In the markup of a drawing, the text element after a rectangle stands in a bar.  The texts in the
bars are the dates on which the tasks begin, bar by bar (`Drawing.barTexts_of?`).  Such a text names
the date again if its year has four digits; a smaller year is not filled up, and the text is not
accepted as a date (`Document.render_barTexts`).
-/
import Prepress.Proofs.Calendar.RoundTrip
import Prepress.Proofs.Timeline.Rendering

namespace Prepress.Timeline

open Text Markup

/-! ## Texts after rectangles -/

/-- Whether a tag is a rectangle. -/
def IsRect (g : Tagged) : Prop := tagName g.tag = "rect".toList

instance : DecidablePred IsRect := fun _ => inferInstanceAs (Decidable (_ = _))

/-- The texts in the bars of a drawing: what a reader finds in the element after a rectangle. -/
def barTexts (refs : References) : List Tagged → List Text
  | g :: h :: gs =>
    if IsRect g then refs.decode h.data :: barTexts refs (h :: gs) else barTexts refs (h :: gs)
  | _ => []

/-- Tags with certain texts in bars, which do not end within a bar. -/
structure HasBars (refs : References) (ws : List Text) (gs : List Tagged) : Prop where
  texts : barTexts refs gs = ws
  last : ∀ g, gs.getLast? = some g → ¬ IsRect g

variable {refs : References} {ws vs : List Text} {gs hs : List Tagged}

theorem barTexts_cons {g : Tagged} (hg : ¬ IsRect g) (gs : List Tagged) :
    barTexts refs (g :: gs) = barTexts refs gs := by
  cases gs with
  | nil => rfl
  | cons h gs => rw [barTexts, if_neg hg]

/-- Tags without rectangles have no bars. -/
theorem hasBars_nil (h : ∀ g ∈ gs, ¬ IsRect g) : HasBars refs [] gs := by
  refine ⟨?_, fun g hg => h g (List.mem_of_getLast? hg)⟩
  induction gs with
  | nil => rfl
  | cons g gs ih =>
      rw [barTexts_cons (h g List.mem_cons_self), ih fun k hk => h k (List.mem_cons_of_mem g hk)]

theorem HasBars.append (hg : HasBars refs ws gs) (hh : HasBars refs vs hs) :
    HasBars refs (ws ++ vs) (gs ++ hs) := by
  constructor
  · rw [← hg.texts, ← hh.texts]
    have hlast := hg.last
    clear hg
    induction gs with
    | nil => rfl
    | cons g gs ih =>
        cases gs with
        | nil => exact barTexts_cons (hlast g rfl) hs
        | cons k gs =>
            have hrest : barTexts refs (k :: (gs ++ hs))
                = barTexts refs (k :: gs) ++ barTexts refs hs := ih hlast
            rw [List.cons_append, List.cons_append, barTexts, barTexts, hrest]
            split
            · rfl
            · rfl
  · intro g h
    rw [List.getLast?_append] at h
    cases hlast : hs.getLast? with
    | none =>
        rw [hlast] at h
        exact hg.last g h
    | some k =>
        rw [hlast] at h
        exact hh.last g (hlast.trans h)

theorem hasBars_flatMap {β : Type} {f : β → List Text} {g : β → List Tagged} {l : List β}
    (h : ∀ b ∈ l, HasBars refs (f b) (g b)) : HasBars refs (l.flatMap f) (l.flatMap g) := by
  induction l with
  | nil => exact hasBars_nil (by simp)
  | cons b l ih =>
      rw [List.flatMap_cons, List.flatMap_cons]
      exact (h b List.mem_cons_self).append (ih fun c hc => h c (List.mem_cons_of_mem b hc))

/-- Lines that show no bar have no rectangle. -/
theorem Shows.hasBars {ms : List Mark} {ls : List Text} (h : Shows refs ms ls)
    (hm : Mark.bar ∉ ms) : HasBars refs [] (ls.flatMap readLine) := by
  refine hasBars_nil ?_
  intro g hg hrect
  refine hm ?_
  have hbar : markOf? refs g = some .bar := by
    rw [markOf?, show tagName g.tag = "rect".toList from hrect]
    rfl
  obtain ⟨l, hl, hg⟩ := List.mem_flatMap.1 hg
  rw [← h.marks_eq]
  exact List.mem_flatMap.2 ⟨l, hl, List.mem_filterMap.2 ⟨g, hg, hbar⟩⟩

/-! ## The bars of a drawing -/

variable {α : Type}

/-- The date in a figure: a bar has the date of its start, and a diamond has none. -/
def Figure.dates : Figure α → List Text
  | .bar _ _ _ start => [Calendar.hyphenated start.date]
  | .diamond _ _ _ => []

/-- The date in a row. -/
def Row.dates : Row α → List Text
  | .heading _ _ => []
  | .task _ _ figure => figure.dates

/-- The date in the row of an item. -/
def Item.dates : Item α → List Text
  | .heading _ => []
  | .task t => if t.milestone then [] else [Calendar.hyphenated t.start.date]

variable [Measure α]

theorem Figure.hasBars (barHeight : Int) (f : Figure α) :
    HasBars refs f.dates ((f.elements barHeight).flatMap readLine) := by
  cases f with
  | diamond x y size =>
      exact (Figure.shows_elements barHeight (.diamond x y size)).hasBars (by simp [Figure.mark])
  | bar x y width start =>
      obtain ⟨rect, hrect, hname, helements⟩ := Figure.elements_bar barHeight x y width start
      have hattributes : '>' ∉ attr "font-size" "10px".toList ++ attr "fill" "#fff".toList := by
        decide
      have htext := (readLine_textElement (Amount.within_short (x + Measure.ofInt 4))
        (Amount.within_short (y + Measure.ofInt 10)) hattributes
        (Calendar.hyphenated start.date)).2
      rw [helements, List.flatMap_cons, List.flatMap_singleton, (readLine_of_isTag hrect.isTag).2,
        htext]
      have hlabel : ∀ {x y attributes data : Text}, ¬ IsRect ⟨textTag x y attributes, data⟩ := by
        intro x y attributes data
        rw [IsRect, tagName_textTag]
        decide
      have hclose : ¬ IsRect ⟨"</text>".toList, ['\n']⟩ := by decide
      have hbar : IsRect ⟨rect, ['\n']⟩ := hname
      constructor
      · rw [List.singleton_append, barTexts, if_pos hbar, refs.decode_escape, barTexts_cons hlabel,
          barTexts_cons hclose]
        rfl
      · intro g hg
        obtain rfl : ⟨"</text>".toList, ['\n']⟩ = g := Option.some.inj hg
        exact hclose

/-- The texts in the bars of a drawing are the dates in its rows. -/
theorem Drawing.barTexts_text (refs : References) (d : Drawing α) :
    barTexts refs (tagged d.text) = d.rows.flatMap Row.dates := by
  have hrow : ∀ row ∈ d.rows,
      HasBars refs row.dates ((row.elements d.barHeight).flatMap readLine) := by
    intro row _
    cases row with
    | heading baseline name =>
        exact (Row.shows_elements d.barHeight (.heading baseline name)).hasBars
          (by simp [Row.marks])
    | task baseline label figure =>
        have hx : Within Amount.IsAmountChar "10".toList := by decide
        have hlabel : Shows refs [.label label] _ :=
          shows_label hx (Amount.within_short baseline) label
        have htask := (hlabel.hasBars (by simp)).append (figure.hasBars d.barHeight)
        rw [← List.flatMap_append] at htask
        exact htask
  have hhead : HasBars refs []
      (([d.openTag, styleElement] ++ d.titleElements ++ d.axisElements).flatMap readLine) := by
    refine d.shows_head.hasBars ?_
    rw [titleMarks.eq_def]
    split <;> simp
  have hrows : HasBars refs (d.rows.flatMap Row.dates)
      ((d.rows.flatMap (Row.elements d.barHeight)).flatMap readLine) := by
    rw [List.flatMap_assoc]
    exact hasBars_flatMap hrow
  have hfoot : HasBars refs [] (["</svg>".toList].flatMap readLine) := shows_foot.hasBars (by simp)
  have hall := ((hhead.append hrows).append hfoot).texts
  rw [List.nil_append, List.append_nil, ← List.flatMap_append, ← List.flatMap_append] at hall
  rw [d.tagged_text]
  exact hall

/-- The dates in the rows of items are the dates of the items. -/
theorem dates_placeItems (f : Frame α) (l : Layout α) (shown : Text → Text) (y : α)
    (items : List (Item α)) :
    (placeItems f l shown y items).flatMap Row.dates = items.flatMap Item.dates := by
  induction items generalizing y with
  | nil => rfl
  | cons item items ih =>
      rw [placeItems, List.flatMap_cons, List.flatMap_cons, ih]
      congr 1
      cases item with
      | heading name => rfl
      | task t =>
          show (f.figure l y t).dates = Item.dates (.task t)
          rw [Frame.figure, Item.dates]
          cases t.milestone <;> rfl

/-- The tasks that are drawn as bars. -/
def Document.bars (d : Document α) : List (Task α) := d.tasks.filter (!·.milestone)

omit [Measure α] in
theorem Document.dates_items (d : Document α) :
    d.items.flatMap Item.dates = d.bars.map fun t => Calendar.hyphenated t.start.date := by
  rw [items, bars, tasks, List.flatMap_assoc, List.filter_flatMap, List.map_flatMap]
  refine List.flatMap_congr fun s _ => ?_
  rw [List.flatMap_cons, List.flatMap_map]
  show s.tasks.flatMap (fun t => Item.dates (.task t)) = _
  induction s.tasks with
  | nil => rfl
  | cons t ts ih =>
      rw [List.flatMap_cons, ih, Item.dates, List.filter_cons]
      cases t.milestone <;> rfl

/-- **The texts in the bars of a drawing are the dates on which the tasks begin.** -/
theorem Drawing.barTexts_of? (refs : References) {options : Options α} {d : Document α}
    {drawing : Drawing α} (h : Drawing.of? options d = .ok drawing) :
    barTexts refs (tagged drawing.text)
      = d.bars.map fun t => Calendar.hyphenated t.start.date := by
  obtain ⟨layout, frame, shown, -, -, -, rfl⟩ := Drawing.of?_eq_ok_iff.1 h
  rw [barTexts_text, dates_placeItems, d.dates_items]

/-- **The text in a bar names the date on which the task begins, if its year has four digits.**  A
smaller year is drawn with fewer digits, and then the text is not accepted as a date. -/
theorem Document.render_barTexts (refs : References) {options : Options α} {d : Document α}
    {output : Text} (h : (d.render options).result = .ok output) :
    (barTexts refs (tagged output)).map Calendar.instant?
      = d.bars.map fun t =>
          if 1000 ≤ t.start.date.year then some (.midnight t.start.date) else none := by
  rw [Document.render_result] at h
  cases hd : Drawing.of? options d with
  | error fault =>
      rw [hd] at h
      exact absurd h (by simp [Except.map])
  | ok drawing =>
      rw [hd] at h
      obtain rfl : drawing.text = output := Except.ok.inj h
      rw [Drawing.barTexts_of? refs hd, List.map_map]
      exact List.map_congr_left fun t _ => Calendar.instant?_hyphenated t.start.date

theorem Document.render_barTexts_newYear :
    ∃ output, ((oneTask ['T'] : Document Float).render Options.standard).result = .ok output ∧
      (barTexts (.ofNames []) (tagged output)).map Calendar.instant? = [some newYear] := by
  obtain ⟨drawing, hd, -⟩ := drawing_oneTask (α := Float) ['T']
  have hrender :
      ((oneTask ['T'] : Document Float).render Options.standard).result = .ok drawing.text := by
    rw [Document.render_result, hd]
    rfl
  refine ⟨drawing.text, hrender, ?_⟩
  rw [Document.render_barTexts _ hrender]
  decide +kernel

/-- A section with a task that begins on the last day of the year 999. -/
def earlyText : Text := "section S\nT :t1, 0999-12-31, 1d".toList

/-- The year 999 is drawn with three digits, and a date with three digits for the year is not
accepted. -/
theorem Document.render_barTexts_earlyText :
    let d : Document Float := Document.read standardDirectives earlyText
    let start : Date :=
      ⟨999, 12, 31, by decide, by decide, by decide, by decide, by decide, by decide⟩
    d.bars.map (·.start) = [.midnight start] ∧
      ∃ output, (d.render Options.standard).result = .ok output ∧
        barTexts (.ofNames []) (tagged output) = ["999-12-31".toList] ∧
          Calendar.instant? "999-12-31".toList = none := by
  intro d start
  have hstart : d.bars.map (·.start) = [.midnight start] := by decide +kernel
  have hcount : d.taskCount ≠ 0 := by decide +kernel
  obtain ⟨drawing, hd⟩ :=
    Drawing.exists_of?_read rfl (Options.inRange_standard (α := Float)) hcount
  refine ⟨hstart, drawing.text, ?_, ?_, by decide +kernel⟩
  · rw [Document.render_result, hd]
    rfl
  · have hdates : (d.bars.map (·.start)).map (fun i => Calendar.hyphenated i.date)
        = ["999-12-31".toList] := by
      rw [hstart]
      decide +kernel
    rw [List.map_map] at hdates
    exact (Drawing.barTexts_of? _ hd).trans hdates

end Prepress.Timeline
