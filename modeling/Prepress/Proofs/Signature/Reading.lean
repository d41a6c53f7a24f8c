/-
# What a signature block is read from

Reading a block only takes texts out of it: titles, headers and values are parts of its lines, and
labels are plain forms of such parts (`isTakenFrom_of_mem_readBlock`).  So they all lie within every
class of characters that the block lies within (`isWithin_of_mem_readBlock`).
-/
import Prepress.Proofs.Signature.Lettering
import Prepress.Proofs.Text.Lines
import Prepress.Proofs.Text.Newlines
import Prepress.Proofs.Text.Occurrence
import Prepress.Proofs.Text.Sublist
import Prepress.Proofs.Text.Within
import Prepress.Signature.Reading

namespace Prepress.Signature

open Text
open scoped List

/-! ## Cells -/

theorem dropEmptyFirst_sublist (cells : List Text) : dropEmptyFirst cells <+ cells := by
  unfold dropEmptyFirst
  split
  · exact List.sublist_cons_self _ _
  · exact List.Sublist.refl _

theorem dropEmptyLast_sublist (cells : List Text) : dropEmptyLast cells <+ cells := by
  unfold dropEmptyLast
  split
  · exact (List.dropLast_prefix cells).sublist
  · exact List.Sublist.refl _

/-- A cell is what stands between two bars of its line, without the blanks around it. -/
theorem exists_of_mem_splitRow {line cell : Text} (h : cell ∈ splitRow line) :
    ∃ piece ∈ splitOn '|' line, trim piece = cell :=
  List.mem_map.1 ((dropEmptyFirst_sublist _).subset ((dropEmptyLast_sublist _).subset h))

/-- A cell is taken from its line. -/
theorem isInfix_of_mem_splitRow {line cell : Text} (h : cell ∈ splitRow line) :
    cell <:+: line := by
  obtain ⟨piece, hp, rfl⟩ := exists_of_mem_splitRow h
  exact (trim_isInfix piece).trans (isInfix_of_mem_splitOn hp)

/-- A cell is trimmed. -/
theorem trim_of_mem_splitRow {line cell : Text} (h : cell ∈ splitRow line) :
    trim cell = cell := by
  obtain ⟨piece, -, rfl⟩ := exists_of_mem_splitRow h
  exact trim_trim piece

/-! ## Lines and tables -/

theorem hasBar_iff {l : Text} : hasBar l = true ↔ '|' ∈ l := by
  rw [hasBar, decide_eq_true_eq]

theorem isDivider_iff {l : Text} : isDivider l = true ↔ '|' ∈ l ∧ ['-', '-'] <:+: l := by
  rw [isDivider, Bool.and_eq_true, hasBar_iff, occursIn_iff]

/-- The row of a line has the first cell as its label and the others as its values. -/
theorem Row.exists_of_read? {line : Text} {row : Row} (h : Row.read? line = some row) :
    ∃ label values, splitRow line = label :: values ∧ values ≠ [] ∧
      row = ⟨plainLabel label, values⟩ := by
  rw [Row.read?] at h
  split at h
  · split at h
    · next label value values hs =>
        exact ⟨label, value :: values, hs, List.cons_ne_nil _ _, (Option.some.inj h).symm⟩
    · simp at h
  · simp at h

/-! ## Sections -/

/-- A row is taken from some lines: its values are parts of them, and its label is the plain form
of such a part. -/
structure Row.IsTakenFrom (ls : List Text) (row : Row) : Prop where
  label : ∃ cell, IsPartOf ls cell ∧ row.label = plainLabel cell
  values : ∀ v ∈ row.values, IsPartOf ls v

/-- A section is taken from some lines. -/
structure Section.IsTakenFrom (ls : List Text) (s : Section) : Prop where
  title : ∀ t ∈ s.title, IsPartOf ls t
  headers : ∀ h ∈ s.headers, IsPartOf ls h
  rows : ∀ row ∈ s.rows, row.IsTakenFrom ls

/-- A row is taken from its line. -/
theorem Row.isTakenFrom_of_read? {ls : List Text} {line : Text} {row : Row}
    (h : Row.read? line = some row) (hl : line ∈ ls) : row.IsTakenFrom ls := by
  have hcell : ∀ cell ∈ splitRow line, IsPartOf ls cell :=
    fun cell hc => ⟨line, hl, isInfix_of_mem_splitRow hc⟩
  obtain ⟨label, values, hs, -, rfl⟩ := Row.exists_of_read? h
  rw [hs] at hcell
  exact ⟨⟨label, hcell label (by simp), rfl⟩, fun v hv => hcell v (List.mem_cons_of_mem label hv)⟩

/-- The header of a table and its body are lines of the table. -/
theorem mem_of_head? {lines body : List Text} {header : Text}
    (h : head? lines = some (header, body)) : header ∈ lines ∧ ∀ l ∈ body, l ∈ lines := by
  rw [head?] at h
  split at h
  · simp at h
  · next head rest hh =>
      have hsub : ∀ l ∈ head :: rest, l ∈ lines := by
        rw [← hh]
        exact (List.dropWhile_suffix _).subset
      split at h
      · simp at h
      · next divider tail hd =>
          have hrest : ∀ l ∈ divider :: tail, l ∈ rest := by
            rw [← hd]
            exact (List.dropWhile_suffix _).subset
          rw [Option.some.injEq, Prod.mk.injEq] at h
          rw [← h.1, ← h.2]
          refine ⟨hsub head (by simp), ?_⟩
          intro l hl
          exact hsub l (List.mem_cons_of_mem head (hrest l (List.mem_cons_of_mem divider hl)))

/-- The headers of a table are two or more cells of one of its lines, and its rows are those of
others. -/
theorem exists_of_readTable {lines headers : List Text} {rows : List Row}
    (h : readTable lines = .ok (headers, rows)) :
    2 ≤ headers.length ∧ (∃ header ∈ lines, headers = splitRow header) ∧
      ∀ row ∈ rows, ∃ line ∈ lines, Row.read? line = some row := by
  rw [readTable, tableParts] at h
  split at h
  · simp [Except.map] at h
  · next header body hh =>
      obtain ⟨hheader, hbody⟩ := mem_of_head? hh
      split at h
      · simp [Except.map] at h
      · next hlength =>
          simp only [Except.map, Except.ok.injEq, Prod.mk.injEq] at h
          obtain ⟨rfl, rfl⟩ := h
          refine ⟨Nat.not_lt.1 hlength, ⟨header, hheader, rfl⟩, ?_⟩
          intro row hr
          obtain ⟨line, hline, hread⟩ := List.mem_filterMap.1 hr
          exact ⟨line, hbody line hline, hread⟩

/-- A table is taken from its lines. -/
theorem isTakenFrom_of_readTable {ls lines headers : List Text} {rows : List Row}
    (h : readTable lines = .ok (headers, rows)) (hl : ∀ l ∈ lines, l ∈ ls) :
    (∀ c ∈ headers, IsPartOf ls c) ∧ ∀ row ∈ rows, row.IsTakenFrom ls := by
  obtain ⟨-, ⟨header, hheader, rfl⟩, hrows⟩ := exists_of_readTable h
  constructor
  · exact fun c hc => ⟨header, hl header hheader, isInfix_of_mem_splitRow hc⟩
  · intro row hr
    obtain ⟨line, hline, hread⟩ := hrows row hr
    exact Row.isTakenFrom_of_read? hread (hl line hline)

/-- The headers of a table are trimmed. -/
theorem trim_of_readTable {lines headers : List Text} {rows : List Row}
    (h : readTable lines = .ok (headers, rows)) : ∀ c ∈ headers, trim c = c := by
  obtain ⟨-, ⟨header, -, rfl⟩, -⟩ := exists_of_readTable h
  exact fun c hc => trim_of_mem_splitRow hc

/-- A title and the lines after it are taken from the lines of their section. -/
theorem isTakenFrom_titleAndBody (ls : List Text) :
    (∀ t ∈ (titleAndBody ls).1, IsPartOf ls t) ∧ ∀ l ∈ (titleAndBody ls).2, l ∈ ls := by
  rw [titleAndBody]
  split
  · exact ⟨by simp, fun l hl => hl⟩
  · next title body h =>
      have hsub : ∀ l ∈ title :: body, l ∈ ls := by
        rw [← h]
        exact (List.dropWhile_suffix _).subset
      constructor
      · intro t ht
        rw [← Option.some.inj ht]
        exact ⟨title, hsub title (by simp),
          (trim_isInfix _).trans (List.dropWhile_suffix _).isInfix⟩
      · exact fun l hlb => hsub l (List.mem_cons_of_mem title hlb)

theorem Section.isTakenFrom_of_read? {text : Text} {s : Section}
    (h : Section.read? text = some s) : s.IsTakenFrom (contentLines text) := by
  rw [Section.read?] at h
  split at h
  · simp at h
  · next lines hne =>
      obtain ⟨htitle, hbody⟩ := isTakenFrom_titleAndBody (contentLines text)
      rw [← Option.some.inj h, Section.ofLines]
      split
      · next headers rows hr =>
          obtain ⟨hheaders, hrows⟩ := isTakenFrom_of_readTable hr hbody
          exact ⟨htitle, hheaders, hrows⟩
      · exact ⟨htitle, by simp, by simp⟩

/-- All texts of a section lie within a class of characters. -/
structure Section.IsWithin (P : Char → Prop) (s : Section) : Prop where
  title : ∀ t ∈ s.title, Within P t
  headers : ∀ h ∈ s.headers, Within P h
  labels : ∀ row ∈ s.rows, Within P row.label
  values : ∀ row ∈ s.rows, ∀ v ∈ row.values, Within P v

variable {P : Char → Prop}

theorem Section.IsTakenFrom.isWithin {ls : List Text} {s : Section} (h : s.IsTakenFrom ls)
    (hl : ∀ l ∈ ls, Within P l) : s.IsWithin P := by
  have hpart : ∀ t, IsPartOf ls t → Within P t := by
    rintro t ⟨l, hmem, ht⟩
    exact (hl l hmem).sublist ht.sublist
  refine ⟨fun t ht => hpart t (h.title t ht), fun t ht => hpart t (h.headers t ht), ?_,
    fun row hr v hv => hpart v ((h.rows row hr).values v hv)⟩
  intro row hr
  obtain ⟨cell, hcell, he⟩ := (h.rows row hr).label
  rw [he]
  exact (hpart cell hcell).sublist (plainLabel_sublist cell)

/-! ## Blocks -/

/-- The grouped lines are the lines. -/
theorem mem_of_mem_groupLines {ls g : List Text} {l : Text} (hg : g ∈ groupLines ls)
    (hl : l ∈ g) : l ∈ ls := by
  induction ls generalizing g with
  | nil =>
      rw [groupLines, List.mem_singleton] at hg
      rw [hg] at hl
      simp at hl
  | cons k ks ih =>
      rw [groupLines] at hg
      split at hg
      · rcases List.mem_cons.1 hg with hg | hg
        · rw [hg] at hl
          simp at hl
        · exact List.mem_cons_of_mem k (ih hg hl)
      · split at hg
        · rw [List.mem_singleton] at hg
          rw [hg, List.mem_singleton] at hl
          rw [hl]
          simp
        · next first others he =>
            rw [he] at ih
            rcases List.mem_cons.1 hg with hg | hg
            · rw [hg] at hl
              rcases List.mem_cons.1 hl with hl | hl
              · rw [hl]
                simp
              · exact List.mem_cons_of_mem k (ih (by simp) hl)
            · exact List.mem_cons_of_mem k (ih (List.mem_cons_of_mem first hg) hl)

/-- A section of a block is taken from the lines between two lines that divide sections. -/
theorem isTakenFrom_of_mem_readBlock {text : Text} {s : Section} (h : s ∈ readBlock text) :
    ∃ group ⊆ splitOn '\n' (normalizeNewlines text),
      s.IsTakenFrom (contentLines (join ['\n'] group)) := by
  obtain ⟨part, hpart, hread⟩ := List.mem_filterMap.1 h
  obtain ⟨group, hgroup, rfl⟩ := List.mem_map.1 hpart
  exact ⟨group, fun l hl => mem_of_mem_groupLines hgroup hl, Section.isTakenFrom_of_read? hread⟩

/-- The headers of a section are trimmed. -/
theorem trim_of_mem_headers {text : Text} {s : Section} (hs : s ∈ readBlock text) {header : Text}
    (hh : header ∈ s.headers) : trim header = header := by
  obtain ⟨part, -, hread⟩ := List.mem_filterMap.1 hs
  rw [Section.read?] at hread
  split at hread
  · simp at hread
  · rw [← Option.some.inj hread, Section.ofLines] at hh
    split at hh
    · next hr => exact trim_of_readTable hr header hh
    · simp at hh

/-- The sections of a block are taken from the block. -/
theorem isWithin_of_mem_readBlock {text : Text} {s : Section} (h : s ∈ readBlock text)
    (hn : P '\n') (ht : Within P text) : s.IsWithin P := by
  have hnorm : Within P (normalizeNewlines text) := by
    intro c hc
    by_cases he : c = '\n'
    · rw [he]
      exact hn
    · exact ht c (mem_of_mem_normalizeNewlines hc he)
  obtain ⟨group, hgroup, hs⟩ := isTakenFrom_of_mem_readBlock h
  have hjoin : Within P (join ['\n'] group) :=
    within_join (within_cons.2 ⟨hn, within_nil⟩)
      fun l hl => hnorm.sublist (sublist_of_mem_splitOn (hgroup hl))
  exact hs.isWithin fun l hl => hjoin.sublist (isInfix_of_mem_contentLines hl).sublist

end Prepress.Signature
