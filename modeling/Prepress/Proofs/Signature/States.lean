/-
# The two states of a section

A section either could be read, and then has a signatory and a value in every row, or has an error
and nothing else of its table.  Which of the two it is depends on the lines of its table alone:
there must be a header and, further on, a line with hyphens, and the header must have two cells
(`readTable_eq_error_iff`).  What a block is read into is clean: every text is trimmed, and no text
of a table has a bar or a line boundary (`readBlock_states`).
-/
import Prepress.Proofs.Signature.Grammar
import Prepress.Proofs.Signature.Reading

namespace Prepress.Signature

open Text
open scoped List

/-! ## The lines of a table -/

/-- The lines of the table among the lines of a section: those after the first line that begins with
a number sign, or all of them if no line does. -/
inductive IsBody : List Text → List Text → Prop
  | untitled {ls : List Text} : (∀ l ∈ ls, l.head? ≠ some '#') → IsBody ls ls
  | titled {before after : List Text} {l : Text} :
      (∀ k ∈ before, k.head? ≠ some '#') → l.head? = some '#' →
        IsBody (before ++ l :: after) after

theorem isBody_titleAndBody (ls : List Text) : IsBody ls (titleAndBody ls).2 := by
  have hls : ls.takeWhile (fun l => l.head? != some '#')
      ++ ls.dropWhile (fun l => l.head? != some '#') = ls := List.takeWhile_append_dropWhile
  have hbefore : ∀ l ∈ ls.takeWhile (fun l => l.head? != some '#'), l.head? ≠ some '#' := by
    intro l hl
    simpa using List.mem_takeWhile_imp hl
  have hhead := List.head?_dropWhile_not (fun l : Text => l.head? != some '#') ls
  rw [titleAndBody]
  cases hd : ls.dropWhile (fun l => l.head? != some '#') with
  | nil =>
      rw [hd, List.append_nil] at hls
      rw [hls] at hbefore
      exact .untitled hbefore
  | cons l body =>
      rw [hd] at hls hhead
      have htitled : IsBody (_ ++ l :: body) body := .titled hbefore (by simpa using hhead)
      rwa [hls] at htitled

/-- A line with a bar is followed, perhaps further on, by a line with a bar and two hyphens in a
row. -/
def HasHead (body : List Text) : Prop :=
  ∃ header divider, [header, divider] <+ body ∧
    '|' ∈ header ∧ '|' ∈ divider ∧ ['-', '-'] <:+: divider

/-- A table has no head, or its first line with a bar has fewer than two cells. -/
def IsMalformed (body : List Text) : Prop :=
  ¬ HasHead body ∨ ∃ header, body.find? hasBar = some header ∧ (splitRow header).length < 2

/-- Lines without a bar before the header do not count. -/
theorem head?_cons_of_not_hasBar {l : Text} (hl : hasBar l = false) (ls : List Text) :
    head? (l :: ls) = head? ls := by
  rw [head?, head?, List.dropWhile_cons_of_pos (by simp [hl])]

/-- Behind the header a divider is looked for. -/
theorem head?_cons_of_hasBar {l : Text} (hl : hasBar l = true) (ls : List Text) :
    head? (l :: ls) = (ls.dropWhile fun k => !isDivider k).tail?.map fun rows => (l, rows) := by
  rw [head?, List.dropWhile_cons_of_neg (by simp [hl])]
  dsimp only
  cases ls.dropWhile fun k => !isDivider k <;> rfl

/-- There is a table below a line with a bar exactly if a divider comes after it. -/
theorem isSome_head?_cons_iff {l : Text} (hl : hasBar l = true) (ls : List Text) :
    (head? (l :: ls)).isSome = true ↔ ∃ k ∈ ls, isDivider k = true := by
  rw [head?_cons_of_hasBar hl]
  cases hd : ls.dropWhile fun k => !isDivider k with
  | nil =>
      have hnone := List.dropWhile_eq_nil_iff.1 hd
      simpa using hnone
  | cons k rows =>
      have hk := List.head?_dropWhile_not (fun k => !isDivider k) ls
      rw [hd] at hk
      have hmem : k ∈ ls := (List.dropWhile_suffix _).subset (hd ▸ List.mem_cons_self)
      exact iff_of_true rfl ⟨k, hmem, by simpa using hk⟩

theorem isSome_head?_iff {body : List Text} : (head? body).isSome = true ↔ HasHead body := by
  induction body with
  | nil =>
      refine iff_of_false (by decide) ?_
      rintro ⟨header, divider, hsub, -⟩
      exact absurd (List.sublist_nil.1 hsub) (by simp)
  | cons l ls ih =>
      cases hl : hasBar l with
      | false =>
          rw [head?_cons_of_not_hasBar hl, ih]
          constructor
          · rintro ⟨header, divider, hsub, hmarks⟩
            exact ⟨header, divider, hsub.cons l, hmarks⟩
          · rintro ⟨header, divider, hsub, hbar, hmarks⟩
            -- the line without a bar is not the header
            cases hsub with
            | cons _ hsub => exact ⟨header, divider, hsub, hbar, hmarks⟩
            | cons_cons _ hsub =>
                rw [hasBar_iff.2 hbar] at hl
                simp at hl
      | true =>
          rw [isSome_head?_cons_iff hl]
          constructor
          · rintro ⟨k, hk, hdivider⟩
            exact ⟨l, k, (List.singleton_sublist.2 hk).cons_cons l, hasBar_iff.1 hl,
              isDivider_iff.1 hdivider⟩
          · rintro ⟨header, divider, hsub, -, hmarks⟩
            refine ⟨divider, ?_, isDivider_iff.2 hmarks⟩
            cases hsub with
            | cons _ hsub => exact hsub.subset (by simp)
            | cons_cons _ hsub => exact hsub.subset (by simp)

/-- The header is the first line with a bar. -/
theorem find?_hasBar_of_head? {body rows : List Text} {header : Text}
    (h : head? body = some (header, rows)) : body.find? hasBar = some header := by
  rw [List.find?_eq_head?_dropWhile_not]
  rw [head?] at h
  split at h
  · simp at h
  · next l rest hd =>
      rw [hd]
      split at h
      · simp at h
      · rw [Option.some.injEq, Prod.mk.injEq] at h
        rw [← h.1]
        rfl

/-- A table could not be read exactly when it is malformed. -/
theorem readTable_eq_error_iff {body : List Text} :
    (∃ cause, readTable body = .error cause) ↔ IsMalformed body := by
  rw [readTable, tableParts, IsMalformed, ← isSome_head?_iff]
  cases hh : head? body with
  | none => exact iff_of_true ⟨_, rfl⟩ (.inl (by simp))
  | some parts =>
      obtain ⟨header, rows⟩ := parts
      rw [find?_hasBar_of_head? hh]
      dsimp only
      split
      · next hshort => exact iff_of_true ⟨_, rfl⟩ (.inr ⟨header, rfl, hshort⟩)
      · next hlong =>
          refine iff_of_false ?_ ?_
          · rintro ⟨cause, hc⟩
            simp [Except.map] at hc
          · rintro (hnone | ⟨first, hfirst, hshort⟩)
            · exact hnone rfl
            · rw [← Option.some.inj hfirst] at hshort
              exact hlong hshort

/-! ## Clean texts -/

/-- A cell of a line is trimmed and has no bar. -/
theorem isCell_of_mem_splitRow {line cell : Text} (hl : Within (isLineBreak · = false) line)
    (h : cell ∈ splitRow line) : IsCell cell where
  trimmed := trim_of_mem_splitRow h
  bar := by
    obtain ⟨piece, hp, rfl⟩ := exists_of_mem_splitRow h
    exact fun hbar => not_mem_of_mem_splitOn hp ((trim_sublist piece).subset hbar)
  within_line := hl.sublist (isInfix_of_mem_splitRow h).sublist

/-- The plain form of a cell could stand in a cell as well. -/
theorem IsCell.plainLabel {cell : Text} (h : IsCell cell) : IsCell (plainLabel cell) where
  trimmed := trim_trim _
  bar := fun hbar => h.bar ((plainLabel_sublist cell).subset hbar)
  within_line := Within.sublist h.within_line (plainLabel_sublist cell)

/-- A row has a label and at least one value, and all of them could stand in cells. -/
structure Row.IsClean (row : Row) : Prop where
  label : IsCell row.label
  values_ne_nil : row.values ≠ []
  values : ∀ v ∈ row.values, IsCell v

theorem Row.isClean_of_read? {line : Text} (hl : Within (isLineBreak · = false) line) {row : Row}
    (h : Row.read? line = some row) : row.IsClean := by
  have hcell : ∀ cell ∈ splitRow line, IsCell cell := fun cell hc => isCell_of_mem_splitRow hl hc
  obtain ⟨label, values, hs, hvalues, rfl⟩ := Row.exists_of_read? h
  rw [hs] at hcell
  exact ⟨(hcell label (by simp)).plainLabel, hvalues,
    fun v hv => hcell v (List.mem_cons_of_mem label hv)⟩

/-- A table that could be read has a signatory, and its headers and rows are clean. -/
theorem isClean_of_readTable {body headers : List Text} {rows : List Row}
    (hbody : ∀ l ∈ body, Within (isLineBreak · = false) l)
    (h : readTable body = .ok (headers, rows)) :
    2 ≤ headers.length ∧ (∀ c ∈ headers, IsCell c) ∧ ∀ row ∈ rows, row.IsClean := by
  obtain ⟨hlength, ⟨header, hheader, rfl⟩, hrows⟩ := exists_of_readTable h
  refine ⟨hlength, fun c hc => isCell_of_mem_splitRow (hbody header hheader) hc, ?_⟩
  intro row hr
  obtain ⟨line, hline, hread⟩ := hrows row hr
  exact Row.isClean_of_read? (hbody line hline) hread

/-! ## Sections -/

/-- A section could be read and has a signatory and a value in every row, or it has an error and
neither headers nor rows. -/
def Section.HasState (s : Section) : Prop :=
  (s.error = none ∧ 2 ≤ s.headers.length ∧ ∀ row ∈ s.rows, row.values ≠ []) ∨
    (s.error ≠ none ∧ s.headers = [] ∧ s.rows = [])

/-- A section is read from some lines: it is in one of the two states, in which of them the lines of
its table decide, and its texts are clean. -/
structure Section.IsReadFrom (lines : List Text) (s : Section) : Prop where
  state : s.HasState
  error : ∃ body, IsBody lines body ∧ (s.error ≠ none ↔ IsMalformed body)
  title : ∀ t ∈ s.title, trim t = t
  headers : ∀ c ∈ s.headers, IsCell c
  labels : ∀ row ∈ s.rows, IsCell row.label
  values : ∀ row ∈ s.rows, ∀ v ∈ row.values, IsCell v

theorem trim_of_mem_titleAndBody (ls : List Text) : ∀ t ∈ (titleAndBody ls).1, trim t = t := by
  rw [titleAndBody]
  split
  · simp
  · intro t ht
    rw [← Option.some.inj ht]
    exact trim_trim _

theorem Section.isReadFrom_ofLines {lines : List Text}
    (hlines : ∀ l ∈ lines, Within (isLineBreak · = false) l) :
    (Section.ofLines (titleAndBody lines).1 (titleAndBody lines).2).IsReadFrom lines := by
  have htitle := trim_of_mem_titleAndBody lines
  have hbody := isBody_titleAndBody lines
  have hwithin := fun l hl => hlines l ((isTakenFrom_titleAndBody lines).2 l hl)
  have hmalformed : (∃ cause, readTable (titleAndBody lines).2 = .error cause) ↔
      IsMalformed (titleAndBody lines).2 := readTable_eq_error_iff
  rw [Section.ofLines]
  cases hr : readTable (titleAndBody lines).2 with
  | error cause =>
      rw [hr] at hmalformed
      have hbad := hmalformed.1 ⟨cause, rfl⟩
      exact ⟨.inr ⟨by simp, rfl, rfl⟩, ⟨_, hbody, iff_of_true (by simp) hbad⟩, htitle, by simp,
        by simp, by simp⟩
  | ok table =>
      obtain ⟨headers, rows⟩ := table
      rw [hr] at hmalformed
      have hgood : ¬ IsMalformed (titleAndBody lines).2 := by
        rw [← hmalformed]
        rintro ⟨cause, hc⟩
        simp at hc
      obtain ⟨hlength, hheaders, hrows⟩ := isClean_of_readTable hwithin hr
      exact ⟨.inl ⟨rfl, hlength, fun row h => (hrows row h).values_ne_nil⟩,
        ⟨_, hbody, iff_of_false (by simp) hgood⟩, htitle, hheaders,
        fun row h => (hrows row h).label, fun row h => (hrows row h).values⟩

/-! ## Blocks -/

/-- **The states of sections.**  Every part of a block that is not blank is read as a section, which
could be read or has an error, as the lines of its table say, and all texts of the section are
clean. -/
theorem readBlock_states (text : Text) :
    List.Forall₂ Section.IsReadFrom
      (((sectionTexts text).map contentLines).filter fun lines => lines ≠ []) (readBlock text) := by
  rw [readBlock]
  induction sectionTexts text with
  | nil => exact .nil
  | cons t ts ih =>
      have hlines : ∀ l ∈ contentLines t, Within (isLineBreak · = false) l :=
        fun l hl => (isContent_of_mem_contentLines hl).within_line
      rw [List.map_cons, List.filter_cons, List.filterMap_cons, Section.read?]
      cases hc : contentLines t with
      | nil => exact ih
      | cons l ls =>
          rw [hc] at hlines
          exact .cons (Section.isReadFrom_ofLines hlines) ih

end Prepress.Signature
