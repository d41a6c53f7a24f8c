/-
# Written signature blocks

How sections are written in a block: a line of number signs and a title, perhaps, a header of cells
between bars, a line of hyphens and bars, and the rows, with spacing and blank lines at will
(`Section.IsWritten`); lines of three hyphens stand between the sections (`AreWritten`).  Reading
undoes writing, for every spacing:

* `splitRow_of_isCellLine` : the cells between bars are read back, empty ones at the ends included;
* `readTable_of_isTable` : neither the header nor a row is taken for the line of hyphens;
* `readBlock_of_areWritten` : the sections of a written block are read back.
-/
import Mathlib.Data.List.Infix
import Prepress.Proofs.Signature.Reading
import Prepress.Proofs.Signature.Sections
import Prepress.Proofs.Text.Layout
import Prepress.Proofs.Text.Occurrence

namespace Prepress.Signature

open Text

/-! ## Lines of cells -/

/-- A text can stand in a cell; it may be empty. -/
structure IsCell (c : Text) : Prop where
  trimmed : trim c = c
  bar : '|' ∉ c
  within_line : ∀ d ∈ c, isLineBreak d = false

instance (c : Text) : Decidable (IsCell c) :=
  decidable_of_iff (trim c = c ∧ '|' ∉ c ∧ ∀ d ∈ c, isLineBreak d = false)
    ⟨fun ⟨h₁, h₂, h₃⟩ => ⟨h₁, h₂, h₃⟩, fun ⟨h₁, h₂, h₃⟩ => ⟨h₁, h₂, h₃⟩⟩

/-- Cells are written between bars, each with spacing around it. -/
inductive IsCellLine : List Text → Text → Prop
  | nil : IsCellLine [] ['|']
  | cons {cell padded line : Text} {cells : List Text} :
      IsPadded cell padded → IsCellLine cells line →
      IsCellLine (cell :: cells) ('|' :: (padded ++ line))

theorem IsCellLine.exists_eq_cons {cells : List Text} {l : Text} (h : IsCellLine cells l) :
    ∃ t, l = '|' :: t := by
  cases h with
  | nil => exact ⟨[], rfl⟩
  | cons _ _ => exact ⟨_, rfl⟩

theorem IsCellLine.getLast?_eq {cells : List Text} {l : Text} (h : IsCellLine cells l) :
    l.getLast? = some '|' := by
  induction h with
  | nil => rfl
  | cons _ hl ih =>
      obtain ⟨t, rfl⟩ := hl.exists_eq_cons
      rw [← List.cons_append, List.getLast?_append_of_ne_nil _ (List.cons_ne_nil _ t), ih]

theorem IsCellLine.hasBar_eq {cells : List Text} {l : Text} (h : IsCellLine cells l) :
    hasBar l = true := by
  obtain ⟨t, rfl⟩ := h.exists_eq_cons
  rw [hasBar_iff]
  simp

/-- A line of cells begins and ends with a bar, so it is a content. -/
theorem IsCellLine.isContent {cells : List Text} {l : Text} (h : IsCellLine cells l)
    (hc : ∀ c ∈ cells, IsCell c) : IsContent l where
  trimmed := by
    have hbar : isBlank '|' = false := by decide
    obtain ⟨t, ht⟩ := h.exists_eq_cons
    rw [trim_eq_self_iff, h.getLast?_eq, ht]
    constructor
    · intro c he
      rw [← Option.some.inj he, hbar]
    · intro c he
      rw [← Option.some.inj he, hbar]
  ne_nil := by
    obtain ⟨t, rfl⟩ := h.exists_eq_cons
    exact List.cons_ne_nil _ t
  within_line := by
    induction h with
    | nil => decide
    | @cons cell padded line cells hp _ ih =>
        have hpadded := hp.within_line (hc cell (by simp)).within_line
        have hline := ih fun c hm => hc c (List.mem_cons_of_mem cell hm)
        exact within_cons.2 ⟨by decide, Within.append hpadded hline⟩

/-- The bars at the ends of a line cut off two empty pieces; the pieces between them are the cells
with their spacing. -/
theorem map_trim_splitOn_of_isCellLine {cells : List Text} {l : Text} (h : IsCellLine cells l)
    (hc : ∀ c ∈ cells, IsCell c) : (splitOn '|' l).map trim = [] :: (cells ++ [[]]) := by
  have hopen : ∀ t, splitOn '|' ('|' :: t) = [] :: splitOn '|' t := splitOn_append_cons '|' []
  induction h with
  | nil => rfl
  | @cons cell padded line cells hp hl ih =>
      have hcell := hc cell (by simp)
      have hpadded : trim padded = cell := hp.trim_eq.trans hcell.trimmed
      have hbar : '|' ∉ padded := hp.not_mem (by decide) hcell.bar
      have hline := ih fun c hm => hc c (List.mem_cons_of_mem cell hm)
      obtain ⟨t, rfl⟩ := hl.exists_eq_cons
      rw [hopen, List.map_cons, List.cons.injEq] at hline
      rw [hopen, splitOn_line hbar, List.map_cons, List.map_cons, hpadded, hline.2,
        List.cons_append]
      rfl

/-- The cells of a written line are read back, whatever their spacing. -/
theorem splitRow_of_isCellLine {cells : List Text} {l : Text} (h : IsCellLine cells l)
    (hc : ∀ c ∈ cells, IsCell c) : splitRow l = cells := by
  have hfirst : dropEmptyFirst ([] :: (cells ++ [[]])) = cells ++ [[]] := rfl
  rw [splitRow, map_trim_splitOn_of_isCellLine h hc, hfirst, dropEmptyLast,
    if_pos (List.getLast?_concat), List.dropLast_concat]

/-! ## Tables -/

/-- A row can be written: its label is plain, and there is a value. -/
structure Row.IsWritable (row : Row) : Prop where
  label : IsCell row.label
  plain : plainLabel row.label = row.label
  values_ne_nil : row.values ≠ []
  values : ∀ v ∈ row.values, IsCell v

instance (row : Row) : Decidable row.IsWritable :=
  decidable_of_iff (IsCell row.label ∧ plainLabel row.label = row.label ∧ row.values ≠ [] ∧
      ∀ v ∈ row.values, IsCell v)
    ⟨fun ⟨h₁, h₂, h₃, h₄⟩ => ⟨h₁, h₂, h₃, h₄⟩, fun ⟨h₁, h₂, h₃, h₄⟩ => ⟨h₁, h₂, h₃, h₄⟩⟩

/-- The cells of a row, its label first. -/
def Row.texts (row : Row) : List Text := row.label :: row.values

theorem Row.IsWritable.texts {row : Row} (h : row.IsWritable) : ∀ c ∈ row.texts, IsCell c :=
  List.forall_mem_cons.2 ⟨h.label, h.values⟩

/-- A written row is read back. -/
theorem Row.read?_of_isCellLine {row : Row} (hrow : row.IsWritable) {l : Text}
    (h : IsCellLine row.texts l) : Row.read? l = some row := by
  have hsplit := splitRow_of_isCellLine h hrow.texts
  obtain ⟨value, values, hv⟩ := List.exists_cons_of_ne_nil hrow.values_ne_nil
  rw [Row.texts, hv] at hsplit
  rw [Row.read?, if_pos h.hasBar_eq, hsplit]
  show some (Row.mk (plainLabel row.label) (value :: values)) = some row
  rw [hrow.plain, ← hv]

/-- A line between a header and the rows: bars and hyphens, two of them in a row; colons and
spacing do not count. -/
structure IsDividerLine (l : Text) : Prop where
  trimmed : trim l = l
  signs : ∀ c ∈ l, c ∈ "|-: \t".toList
  bar : '|' ∈ l
  hyphens : ['-', '-'] <:+: l

instance (l : Text) : Decidable (IsDividerLine l) :=
  decidable_of_iff (trim l = l ∧ (∀ c ∈ l, c ∈ "|-: \t".toList) ∧ '|' ∈ l ∧ ['-', '-'] <:+: l)
    ⟨fun ⟨h₁, h₂, h₃, h₄⟩ => ⟨h₁, h₂, h₃, h₄⟩, fun ⟨h₁, h₂, h₃, h₄⟩ => ⟨h₁, h₂, h₃, h₄⟩⟩

theorem IsDividerLine.isContent {l : Text} (h : IsDividerLine l) : IsContent l where
  trimmed := h.trimmed
  ne_nil := List.ne_nil_of_mem h.bar
  within_line := by
    have hsigns : ∀ c ∈ "|-: \t".toList, isLineBreak c = false := by decide
    exact fun c hc => hsigns c (h.signs c hc)

theorem IsDividerLine.isDivider_eq {l : Text} (h : IsDividerLine l) : isDivider l = true :=
  isDivider_iff.2 ⟨h.bar, h.hyphens⟩

/-- The lines of the table of a section. -/
inductive Section.IsTable (s : Section) : List Text → Prop
  | intro {header divider : Text} {rows : List Text} :
      IsCellLine s.headers header → IsDividerLine divider →
      List.Forall₂ (fun row l => IsCellLine row.texts l) s.rows rows →
      s.IsTable (header :: divider :: rows)

/-- A section can be written: its title, if it has one, is a content and does not begin with a
number sign, there are two headers at least, and its table is well-formed. -/
structure Section.IsWritable (s : Section) : Prop where
  title : ∀ t ∈ s.title, IsContent t ∧ t.head? ≠ some '#'
  length_headers : 2 ≤ s.headers.length
  headers : ∀ c ∈ s.headers, IsCell c
  rows : ∀ row ∈ s.rows, row.IsWritable
  error : s.error = none

instance (s : Section) : Decidable s.IsWritable :=
  decidable_of_iff ((∀ t ∈ s.title.toList, IsContent t ∧ t.head? ≠ some '#') ∧
      2 ≤ s.headers.length ∧ (∀ c ∈ s.headers, IsCell c) ∧ (∀ row ∈ s.rows, row.IsWritable) ∧
        s.error = none)
    ⟨fun ⟨h₁, h₂, h₃, h₄, h₅⟩ => ⟨fun t ht => h₁ t (Option.mem_toList.2 ht), h₂, h₃, h₄, h₅⟩,
      fun ⟨h₁, h₂, h₃, h₄, h₅⟩ => ⟨fun t ht => h₁ t (Option.mem_toList.1 ht), h₂, h₃, h₄, h₅⟩⟩

variable {s : Section}

theorem filterMap_read?_of_forall₂ {rows : List Row} {ls : List Text}
    (h : List.Forall₂ (fun row l => IsCellLine row.texts l) rows ls)
    (hrows : ∀ row ∈ rows, row.IsWritable) : ls.filterMap Row.read? = rows := by
  induction h with
  | nil => rfl
  | @cons row l rows ls hl _ ih =>
      rw [List.filterMap_cons, Row.read?_of_isCellLine (hrows row (by simp)) hl]
      exact congrArg _ (ih fun r hr => hrows r (List.mem_cons_of_mem row hr))

/-- A written table is read back. -/
theorem readTable_of_isTable (hs : s.IsWritable) {ls : List Text} (h : s.IsTable ls) :
    readTable ls = .ok (s.headers, s.rows) := by
  obtain ⟨hheader, hdivider, hrows⟩ := h
  next header divider rows =>
    -- the header is the first line with a bar, and the divider is the first line after it
    have hhead : head? (header :: divider :: rows) = some (header, rows) := by
      rw [head?, List.dropWhile_cons_of_neg (by rw [hheader.hasBar_eq]; simp)]
      dsimp only
      rw [List.dropWhile_cons_of_neg (by rw [hdivider.isDivider_eq]; simp)]
    have hcells : splitRow header = s.headers := splitRow_of_isCellLine hheader hs.headers
    have hlength : ¬ s.headers.length < 2 := Nat.not_lt.2 hs.length_headers
    rw [readTable, tableParts, hhead]
    dsimp only
    rw [hcells, if_neg hlength, Except.map, filterMap_read?_of_forall₂ hrows hs.rows]

/-- What the lines of a table have in common. -/
structure IsTableLine (l : Text) : Prop where
  isContent : IsContent l
  bar : '|' ∈ l
  head : l.head? ≠ some '#'

theorem IsCellLine.isTableLine {cells : List Text} {l : Text} (h : IsCellLine cells l)
    (hc : ∀ c ∈ cells, IsCell c) : IsTableLine l := by
  refine ⟨h.isContent hc, ?_, ?_⟩
  · exact hasBar_iff.1 h.hasBar_eq
  · obtain ⟨t, rfl⟩ := h.exists_eq_cons
    simp

theorem IsDividerLine.isTableLine {l : Text} (h : IsDividerLine l) : IsTableLine l := by
  refine ⟨h.isContent, h.bar, ?_⟩
  intro hhead
  exact absurd (h.signs '#' (List.mem_of_head? hhead)) (by decide)

theorem Section.IsTable.isTableLine (hs : s.IsWritable) {ls : List Text} (h : s.IsTable ls) :
    ∀ l ∈ ls, IsTableLine l := by
  have hbody : ∀ {rows : List Row} {ls : List Text},
      List.Forall₂ (fun row l => IsCellLine row.texts l) rows ls →
        (∀ row ∈ rows, row.IsWritable) → ∀ l ∈ ls, IsTableLine l := by
    intro rows ls hrows hplain
    induction hrows with
    | nil => simp
    | @cons row l rows ls hl _ ih =>
        exact List.forall_mem_cons.2 ⟨hl.isTableLine (hplain row (by simp)).texts,
          ih fun r hr => hplain r (List.mem_cons_of_mem row hr)⟩
  obtain ⟨hheader, hdivider, hrows⟩ := h
  exact List.forall_mem_cons.2 ⟨hheader.isTableLine hs.headers,
    List.forall_mem_cons.2 ⟨hdivider.isTableLine, hbody hrows hs.rows⟩⟩

/-! ## Titles -/

/-- A title is written after number signs. -/
def IsTitleLine (title l : Text) : Prop :=
  ∃ marks b, marks ≠ [] ∧ Within (· = '#') marks ∧ IsSpacing b ∧ l = marks ++ b ++ title

theorem IsTitleLine.isContent {title l : Text} (h : IsTitleLine title l) (ht : IsContent title) :
    IsContent l := by
  obtain ⟨marks, b, hne, hmarks, hb, rfl⟩ := h
  have hsign : isBlank '#' = false ∧ isLineBreak '#' = false := by decide
  have hmarks' : IsContent marks := by
    refine ⟨?_, hne, fun c hc => ?_⟩
    · rw [trim_eq_self_iff]
      constructor
      · intro c hc
        rw [hmarks c (List.mem_of_head? hc), hsign.1]
      · intro c hc
        rw [hmarks c (List.mem_of_getLast? hc), hsign.1]
    · rw [hmarks c hc, hsign.2]
  exact hmarks'.between ht hb.within_line

theorem IsTitleLine.head?_eq {title l : Text} (h : IsTitleLine title l) : l.head? = some '#' := by
  obtain ⟨marks, b, hne, hmarks, -, rfl⟩ := h
  obtain ⟨c, marks, rfl⟩ := List.exists_cons_of_ne_nil hne
  rw [(within_cons.1 hmarks).1]
  rfl

/-- A written title is read back. -/
theorem IsTitleLine.trim_dropWhile {title l : Text} (h : IsTitleLine title l)
    (ht : trim title = title) (hhead : title.head? ≠ some '#') :
    trim (l.dropWhile (· == '#')) = title := by
  obtain ⟨marks, b, -, hmarks, hb, rfl⟩ := h
  have hrest : (b ++ title).dropWhile (· == '#') = b ++ title := by
    cases b with
    | nil =>
        cases title with
        | nil => rfl
        | cons c t =>
            refine List.dropWhile_cons_of_neg ?_
            intro hc
            exact hhead (by rw [eq_of_beq hc]; rfl)
    | cons c b =>
        refine List.dropWhile_cons_of_neg ?_
        intro hc
        have hblank := (hb c (by simp)).1
        rw [eq_of_beq hc] at hblank
        exact absurd hblank (by decide)
  have hmarks' : ∀ c ∈ marks, (c == '#') = true := fun c hc => by rw [hmarks c hc]; rfl
  rw [List.append_assoc, List.dropWhile_append_of_pos hmarks', hrest,
    trim_append_left hb.isAllBlank, ht]

/-! ## Sections -/

/-- What stands on the lines of a section: a title, if it has one, and a table. -/
inductive Section.HasContents (s : Section) : List Text → Prop
  | untitled {table : List Text} : s.title = none → s.IsTable table → s.HasContents table
  | titled {title line : Text} {table : List Text} :
      s.title = some title → IsTitleLine title line → s.IsTable table →
      s.HasContents (line :: table)

/-- The lines of a section, with spacing and blank lines at will. -/
def Section.IsWritten (s : Section) (ls : List Text) : Prop :=
  ∃ contents, s.HasContents contents ∧ LaidOut IsPadded contents ls

theorem Section.HasContents.isContent (hs : s.IsWritable) {contents : List Text}
    (h : s.HasContents contents) : ∀ l ∈ contents, IsContent l := by
  cases h with
  | untitled _ htable => exact fun l hl => (htable.isTableLine hs l hl).isContent
  | titled htitle hline htable =>
      exact List.forall_mem_cons.2 ⟨hline.isContent (hs.title _ htitle).1,
        fun l hl => (htable.isTableLine hs l hl).isContent⟩

/-- The title and the table are told apart: no line of a table begins like a title. -/
theorem Section.HasContents.titleAndBody_eq (hs : s.IsWritable) {contents : List Text}
    (h : s.HasContents contents) :
    ∃ table, titleAndBody contents = (s.title, table) ∧ s.IsTable table := by
  cases h with
  | untitled htitle htable =>
      have hnone : contents.dropWhile (fun l => l.head? != some '#') = [] := by
        rw [List.dropWhile_eq_nil_iff]
        intro l hl
        simpa using (htable.isTableLine hs l hl).head
      refine ⟨contents, ?_, htable⟩
      rw [titleAndBody, hnone, htitle]
  | @titled title line table htitle hline htable =>
      obtain ⟨ht, hhead⟩ := hs.title title htitle
      refine ⟨table, ?_, htable⟩
      rw [titleAndBody, List.dropWhile_cons_of_neg (by rw [hline.head?_eq]; simp)]
      dsimp only
      rw [hline.trim_dropWhile ht.trimmed hhead, htitle]

/-- A written section is read back. -/
theorem Section.read?_of_isWritten (hs : s.IsWritable) {ls : List Text} (h : s.IsWritten ls) :
    Section.read? (join ['\n'] ls) = some s := by
  obtain ⟨contents, hcontents, hlaid⟩ := h
  have hread : contentLines (join ['\n'] ls) = contents := by
    rw [contentLines_join]
    exact hlaid.contentLines_eq (hcontents.isContent hs)
  obtain ⟨table, hparts, htable⟩ := hcontents.titleAndBody_eq hs
  have hne : contents ≠ [] := by
    rintro rfl
    cases hcontents with
    | untitled _ htable => cases htable
  have hsection : Section.ofLines s.title table = s := by
    rw [Section.ofLines, readTable_of_isTable hs htable]
    show (⟨s.title, s.headers, s.rows, none⟩ : Section) = s
    rw [← hs.error]
  obtain ⟨l, rest, hcons⟩ := List.exists_cons_of_ne_nil hne
  rw [hcons] at hread hparts
  rw [Section.read?, hread]
  dsimp only
  rw [hparts, hsection]

/-! ## Lines between sections -/

/-- Three hyphens with spaces and tabulators around them. -/
def IsBreakLine (l : Text) : Prop :=
  ∃ a b, Within (isIndent · = true) a ∧ Within (isIndent · = true) b ∧
    l = a ++ ['-', '-', '-'] ++ b

theorem isSectionBreak_of_isBreakLine {l : Text} (h : IsBreakLine l) :
    isSectionBreak l = true := by
  obtain ⟨a, b, ha, hb, rfl⟩ := h
  have hdrop : (a ++ ['-', '-', '-'] ++ b).dropWhile isIndent = ['-', '-', '-'] ++ b := by
    rw [List.append_assoc, List.dropWhile_append_of_pos ha]
    rfl
  rw [isSectionBreak, hdrop, after?_append]
  exact List.all_eq_true.2 hb

/-- A line that divides sections has nothing but hyphens, spaces and tabulators, and a hyphen. -/
theorem mem_of_isSectionBreak {l : Text} (h : isSectionBreak l = true) :
    '-' ∈ l ∧ ∀ c ∈ l, isIndent c = true ∨ c = '-' := by
  rw [isSectionBreak] at h
  split at h
  · next rest hrest =>
      rw [after?_eq_some] at hrest
      have hl : l.takeWhile isIndent ++ (['-', '-', '-'] ++ rest) = l := by
        rw [← hrest]
        exact List.takeWhile_append_dropWhile
      rw [← hl]
      refine ⟨by simp, ?_⟩
      intro c hc
      rw [List.mem_append, List.mem_append] at hc
      rcases hc with hc | hc | hc
      · exact Or.inl (List.mem_takeWhile_imp hc)
      · exact Or.inr (by simpa using hc)
      · exact Or.inl (List.all_eq_true.1 h c hc)
  · simp at h

/-- No line of a section divides sections. -/
theorem Section.IsWritten.isSectionBreak_eq (hs : s.IsWritable) {ls : List Text}
    (h : s.IsWritten ls) : ∀ l ∈ ls, isSectionBreak l = false := by
  obtain ⟨contents, hcontents, hlaid⟩ := h
  -- a content has a bar or a number sign
  have hsign : ∀ l ∈ contents, ∃ c ∈ l, isIndent c = false ∧ c ≠ '-' := by
    have htable : ∀ l, IsTableLine l → ∃ c ∈ l, isIndent c = false ∧ c ≠ '-' :=
      fun l hl => ⟨'|', hl.bar, by decide, by decide⟩
    cases hcontents with
    | untitled _ ht => exact fun l hl => htable l (ht.isTableLine hs l hl)
    | titled _ hline ht =>
        exact List.forall_mem_cons.2
          ⟨⟨'#', List.mem_of_head? hline.head?_eq, by decide, by decide⟩,
            fun l hl => htable l (ht.isTableLine hs l hl)⟩
  intro l hl
  rw [← Bool.not_eq_true]
  intro hbreak
  obtain ⟨hhyphen, hall⟩ := mem_of_isSectionBreak hbreak
  rcases hlaid.line_cases hl with hblank | ⟨content, hmem, a, b, -, -, rfl⟩
  · exact absurd (hblank '-' hhyphen).1 (by decide)
  · obtain ⟨c, hc, hindent, hne⟩ := hsign content hmem
    rcases hall c (by simp [hc]) with h | h
    · rw [h] at hindent
      simp at hindent
    · exact hne h

/-! ## Blocks -/

/-- Sections are written one after the other, with lines of three hyphens between them. -/
inductive AreWritten : List Section → List Text → Prop
  | nil {ls : List Text} : (∀ l ∈ ls, IsSpacing l) → AreWritten [] ls
  | last {s : Section} {ls : List Text} : s.IsWritten ls → AreWritten [s] ls
  | cons {s : Section} {b : Text} {ss : List Section} {ls ks : List Text} :
      s.IsWritten ls → IsBreakLine b → AreWritten ss ks → AreWritten (s :: ss) (ls ++ b :: ks)

/-- Lines that divide no sections make one group. -/
theorem groupLines_of_forall {ls : List Text} (h : ∀ l ∈ ls, isSectionBreak l = false) :
    groupLines ls = [ls] := by
  induction ls with
  | nil => rfl
  | cons l ls ih =>
      exact groupLines_cons (h l (by simp)) (ih fun k hk => h k (List.mem_cons_of_mem l hk))

theorem sectionsOf_of_isWritten (hs : s.IsWritable) {ls : List Text} (h : s.IsWritten ls) :
    sectionsOf ls = [s] := by
  rw [sectionsOf, groupLines_of_forall (h.isSectionBreak_eq hs)]
  show [join ['\n'] ls].filterMap Section.read? = [s]
  rw [List.filterMap_cons, Section.read?_of_isWritten hs h]
  rfl

/-- Blank lines hold no section. -/
theorem sectionsOf_of_isSpacing {ls : List Text} (h : ∀ l ∈ ls, IsSpacing l) :
    sectionsOf ls = [] := by
  have hbreak : ∀ l ∈ ls, isSectionBreak l = false := by
    intro l hl
    rw [← Bool.not_eq_true]
    intro hbreak
    exact absurd (h l hl '-' (mem_of_isSectionBreak hbreak).1).1 (by decide)
  have hcontent : contentLines (join ['\n'] ls) = [] := by
    rw [contentLines_join, List.flatMap_eq_nil_iff]
    exact fun l hl => contentLines_of_isSpacing (h l hl)
  rw [sectionsOf, groupLines_of_forall hbreak]
  show [join ['\n'] ls].filterMap Section.read? = []
  rw [List.filterMap_cons, Section.read?, hcontent]
  rfl

/-- The lines of written sections hold these sections. -/
theorem sectionsOf_of_areWritten {sections : List Section} (hs : ∀ s ∈ sections, s.IsWritable)
    {ls : List Text} (h : AreWritten sections ls) : sectionsOf ls = sections := by
  induction h with
  | nil hls => exact sectionsOf_of_isSpacing hls
  | @last s ls hls => exact sectionsOf_of_isWritten (hs s (by simp)) hls
  | @cons s b ss ls ks hls hb _ ih =>
      rw [sectionsOf_append (isSectionBreak_of_isBreakLine hb),
        sectionsOf_of_isWritten (hs s (by simp)) hls,
        ih fun r hr => hs r (List.mem_cons_of_mem s hr)]
      rfl

/-- Written lines have no line boundary in them. -/
theorem AreWritten.within_line {sections : List Section} (hs : ∀ s ∈ sections, s.IsWritable)
    {ls : List Text} (h : AreWritten sections ls) :
    ∀ l ∈ ls, ∀ c ∈ l, isLineBreak c = false := by
  have hsection : ∀ {s : Section} {ls : List Text}, s.IsWritable → s.IsWritten ls →
      ∀ l ∈ ls, ∀ c ∈ l, isLineBreak c = false := by
    rintro s ls hs ⟨contents, hcontents, hlaid⟩ l hl
    rcases hlaid.line_cases hl with hblank | ⟨content, hmem, hpadded⟩
    · exact hblank.within_line
    · exact hpadded.within_line (hcontents.isContent hs content hmem).within_line
  induction h with
  | nil hls => exact fun l hl => (hls l hl).within_line
  | @last s ls hls => exact hsection (hs s (by simp)) hls
  | @cons s b ss ls ks hls hb _ ih =>
      have hbreak : ∀ c ∈ b, isLineBreak c = false := by
        have hindent : ∀ c, isIndent c = true → isLineBreak c = false := by
          intro c hc
          rw [isIndent, Bool.or_eq_true, beq_iff_eq, beq_iff_eq] at hc
          rcases hc with rfl | rfl <;> decide
        obtain ⟨a, d, ha, hd, rfl⟩ := hb
        exact ((ha.imp hindent).append (by decide)).append (hd.imp hindent)
      rw [List.forall_mem_append, List.forall_mem_cons]
      exact ⟨hsection (hs s (by simp)) hls, hbreak,
        ih fun r hr => hs r (List.mem_cons_of_mem s hr)⟩

/-- **Reading undoes writing.**  The sections of a written block are read back, in order and without
errors, whatever the spacing and wherever the blank lines are. -/
theorem readBlock_of_areWritten {sections : List Section} (hs : ∀ s ∈ sections, s.IsWritable)
    {ls : List Text} (h : AreWritten sections ls) : readBlock (join ['\n'] ls) = sections := by
  have hlines := h.within_line hs
  have hjoin : '\r' ∉ join ['\n'] ls := by
    have hwithin : Within (· ≠ '\r') (join ['\n'] ls) := by
      refine within_join (by decide) fun l hl c hc he => ?_
      have := hlines l hl c hc
      rw [he] at this
      exact absurd this (by decide)
    exact fun hm => hwithin '\r' hm rfl
  have hfeed : ∀ l ∈ ls, '\n' ∉ l := fun l hl hm => absurd (hlines l hl '\n' hm) (by decide)
  rw [readBlock_eq, normalizeNewlines_eq_self hjoin]
  by_cases hne : ls = []
  · -- a text without lines has one empty piece
    rw [← sectionsOf_of_areWritten hs h, hne]
    exact sectionsOf_concat []
  · rw [splitOn_join hne hfeed, sectionsOf_of_areWritten hs h]

/-- Two sections: a title, hyphens in the cells, and empty cells at the ends of lines; no title and
no rows. -/
def approvals : List Section :=
  [⟨some "A".toList, [[], "B--C".toList], [⟨[], ["--".toList]⟩], none⟩, ⟨none, [[], []], [], none⟩]

/-- They are written with spacing and a blank line. -/
def approvalLines : List Text :=
  ["\t##A".toList, "| |B--C\t|".toList, [' '], "--|".toList, "||--|".toList, " ---".toList,
    "|||".toList, "|:--".toList]

theorem readBlock_of_areWritten_approvals :
    (∀ s ∈ approvals, s.IsWritable) ∧ AreWritten approvals approvalLines ∧
      readBlock (join ['\n'] approvalLines) = approvals := by
  have hplain : ∀ s ∈ approvals, s.IsWritable := by decide +kernel
  have hspace : IsSpacing [' '] := by decide
  have htab : IsSpacing ['\t'] := by decide
  have hheader : IsCellLine [[], "B--C".toList] "| |B--C\t|".toList :=
    .cons (isPadded_append_left hspace _) (.cons (isPadded_append within_nil htab _) .nil)
  have hrow : IsCellLine [[], "--".toList] "||--|".toList :=
    .cons (isPadded_self _) (.cons (isPadded_self _) .nil)
  have hempty : IsCellLine [[], []] "|||".toList :=
    .cons (isPadded_self _) (.cons (isPadded_self _) .nil)
  have htitle : IsTitleLine "A".toList "##A".toList :=
    ⟨"##".toList, [], by decide, by decide, by decide, rfl⟩
  have hrows : IsDividerLine "--|".toList := by decide +kernel
  have hnone : IsDividerLine "|:--".toList := by decide +kernel
  have hwritten : AreWritten approvals approvalLines := by
    show AreWritten approvals (approvalLines.take 5 ++ " ---".toList :: approvalLines.drop 6)
    refine .cons ⟨_, .titled rfl htitle (.intro hheader hrows (.cons hrow .nil)), ?_⟩
      ⟨[' '], [], by decide, by decide, rfl⟩
      (.last ⟨_, .untitled rfl (.intro hempty hnone .nil), ?_⟩)
    · refine .line (isPadded_append_left htab _) (.line (isPadded_self _) ?_)
      exact .blank hspace (.line (isPadded_self _) (.line (isPadded_self _) .nil))
    · exact .line (isPadded_self _) (.line (isPadded_self _) .nil)
  exact ⟨hplain, hwritten, readBlock_of_areWritten hplain hwritten⟩

end Prepress.Signature
