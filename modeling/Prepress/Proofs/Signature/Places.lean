/-
# Cells of one name

The name of a field joins the title of its section, the part of its column and the part of its label
by underscores.  Where headers differ and labels differ, the parts of two cells are different, but
their names can still be the same: a header may read like the part that stands in for a blank one,
and a header or a label may have an underscore where two parts are joined.  No other two cells of a
section have one name (`fieldName_eq_iff`).
-/
import Mathlib.Data.List.Nodup
import Prepress.Proofs.Text.Within
import Prepress.Signature.Basic

namespace Prepress

open Text

/-! ## Parts of names -/

namespace Text

theorem compact_eq_self {t : Text} (h : Within (isBlank · = false) t) : compact t = t := by
  rw [compact, List.filter_eq_self]
  exact fun c hc => by rw [h c hc]; rfl

theorem compact_compact (t : Text) : compact (compact t) = compact t :=
  compact_eq_self fun _ hc => not_isBlank_of_mem_compact hc

/-- Different numbers have different numerals. -/
theorem ofNat_injective : Function.Injective ofNat := by
  intro m n h
  calc m = Nat.ofDigitChars 10 (ofNat m) 0 := Nat.ofDigitChars_ten_toDigits.symm
    _ = Nat.ofDigitChars 10 (ofNat n) 0 := by rw [h]
    _ = n := Nat.ofDigitChars_ten_toDigits

/-- Two texts that are joined by the same character are the same as two others, if they are the same
one by one or if the character stands in one of them where the others are joined. -/
theorem append_cons_eq_append_cons_iff {c : Char} {a b x y : Text} :
    a ++ c :: x = b ++ c :: y ↔
      (a = b ∧ x = y) ∨ (∃ m, b = a ++ c :: m ∧ x = m ++ c :: y) ∨
        ∃ m, a = b ++ c :: m ∧ y = m ++ c :: x := by
  rw [List.append_eq_append_iff]
  constructor
  · rintro (⟨m, hb, hx⟩ | ⟨m, ha, hy⟩)
    · cases m with
      | nil =>
          rw [List.append_nil] at hb
          exact Or.inl ⟨hb.symm, (List.cons.inj hx).2⟩
      | cons d m =>
          obtain ⟨rfl, hrest⟩ := List.cons_eq_cons.1 hx
          exact Or.inr (Or.inl ⟨m, hb, hrest⟩)
    · cases m with
      | nil =>
          rw [List.append_nil] at ha
          exact Or.inl ⟨ha, (List.cons.inj hy).2.symm⟩
      | cons d m =>
          obtain ⟨rfl, hrest⟩ := List.cons_eq_cons.1 hy
          exact Or.inr (Or.inr ⟨m, ha, hrest⟩)
  · rintro (⟨rfl, rfl⟩ | ⟨m, hb, hx⟩ | ⟨m, ha, hy⟩)
    · exact Or.inl ⟨[], by simp, by simp⟩
    · exact Or.inl ⟨c :: m, hb, by rw [hx]; rfl⟩
    · exact Or.inr ⟨c :: m, ha, by rw [hy]; rfl⟩

end Text

namespace Field

/-- What stands in for a blank header. -/
def standIn (place : Nat) : Text := "Col".toList ++ ofNat place

theorem columnComponent_of_compact_eq_nil {column : Text} (h : compact column = []) (place : Nat) :
    columnComponent column place = standIn place := by
  rw [columnComponent, h]
  rfl

theorem columnComponent_of_compact_ne_nil {column : Text} (h : compact column ≠ []) (place : Nat) :
    columnComponent column place = compact column := by
  rw [columnComponent, if_neg (by simpa using h)]

/-- The part of a column has no blank. -/
theorem compact_columnComponent (column : Text) (place : Nat) :
    compact (columnComponent column place) = columnComponent column place := by
  by_cases h : compact column = []
  · rw [columnComponent_of_compact_eq_nil h]
    refine compact_eq_self (within_append.2 ⟨by decide, ?_⟩)
    intro c hc
    have hdigit := toNat_of_isDigit (isDigit_of_mem_ofNat hc)
    rw [← Bool.not_eq_true]
    simp only [isBlank, Bool.or_eq_true, Bool.and_eq_true, decide_eq_true_eq, beq_iff_eq]
    omega
  · rw [columnComponent_of_compact_ne_nil h, compact_compact]

end Field

/-! ## Cells of a section -/

namespace Signature

variable {untitled : Text} {s : Section}

/-- The place of a cell in a section: a row, and a column for which the row has a cell. -/
structure Section.Place (untitled : Text) (s : Section) where
  row : Fin s.rows.length
  column : Fin (s.cells untitled s.rows[row]).length
deriving DecidableEq

namespace Section.Place

/-- The row of a place. -/
def line (p : s.Place untitled) : Row := s.rows[p.row]

/-- The cell at a place. -/
def cell (p : s.Place untitled) : Cell := (s.cells untitled p.line).get p.column

/-- The header's part of the name of a cell. -/
def columnPart (p : s.Place untitled) : Text :=
  Field.columnComponent p.cell.column ((p.column + 1 : Nat) : Int)

/-- The label's part of the name of a cell. -/
def labelPart (p : s.Place untitled) : Text := Field.labelComponent p.line.label

/-- A place is known by the numbers of its row and of its column. -/
theorem ext_of_val {p q : s.Place untitled} (hrow : p.row = q.row)
    (hcolumn : (p.column : Nat) = q.column) : p = q := by
  obtain ⟨row, column⟩ := p
  obtain ⟨row', column'⟩ := q
  dsimp only at hrow hcolumn
  subst hrow
  rw [Fin.ext hcolumn]

/-- A cell stands under a signatory, and its name is made of the title, the part of the column and
the part of the label. -/
theorem cell_spec (p : s.Place untitled) :
    s.signatories[(p.column : Nat)]? = some p.cell.column ∧
      p.cell.fieldName = compact (s.fieldTitle untitled)
        ++ '_' :: (p.columnPart ++ '_' :: p.labelPart) := by
  have hcell : (s.cells untitled p.line)[(p.column : Nat)]? = some p.cell :=
    List.getElem?_eq_getElem p.column.isLt
  rw [Section.cells, List.getElem?_map, Option.map_eq_some_iff] at hcell
  obtain ⟨⟨⟨column, value⟩, index⟩, hpair, hcell⟩ := hcell
  rw [List.getElem?_zipIdx, Option.map_eq_some_iff] at hpair
  obtain ⟨pair, hzip, hpair⟩ := hpair
  rw [Prod.mk.injEq] at hpair
  obtain ⟨rfl, rfl⟩ := hpair
  have hcolumn : p.cell.column = column := by rw [← hcell]
  refine ⟨by rw [hcolumn]; exact (List.getElem?_zip_eq_some.1 hzip).1, ?_⟩
  have hname : p.cell.fieldName = Field.identifier (s.fieldTitle untitled)
      (Field.columnComponent column ((1 + p.column : Nat) : Int)) p.line.label := by
    rw [← hcell]
  rw [hname, columnPart, hcolumn, Nat.add_comm, Field.identifier, Field.compact_columnComponent,
    List.append_assoc, List.append_assoc, List.append_assoc]
  rfl

/-- The header over one cell reads like the part that stands in for the blank header over another
cell of the row. -/
def ReadsLike (p q : s.Place untitled) : Prop :=
  p.row = q.row ∧ compact q.cell.column = [] ∧
    compact p.cell.column = Field.standIn (q.column + 1)

/-- The column's part of one cell goes on, behind that of another cell and an underscore, like the
label's part of the other cell before an underscore and the label's part of the first. -/
def RunsInto (p q : s.Place untitled) : Prop :=
  ∃ m, q.columnPart = p.columnPart ++ '_' :: m ∧ p.labelPart = m ++ '_' :: q.labelPart

end Section.Place

/-- The headers of a section that are not blank are different without their blanks, and its labels
are different without their blanks and slashes. -/
structure Section.HasDistinctTexts (s : Section) : Prop where
  signatories : ((s.signatories.map compact).filter fun h => h ≠ []).Nodup
  labels : (s.rows.map fun row => Field.labelComponent row.label).Nodup

namespace Section.HasDistinctTexts

/-- A header that is not blank stands over one column. -/
theorem eq_of_compact_eq (hs : s.HasDistinctTexts) {i j : Nat} {a b : Text}
    (hi : s.signatories[i]? = some a) (hj : s.signatories[j]? = some b) (ha : compact a ≠ [])
    (h : compact a = compact b) : i = j := by
  have hpairs := hs.signatories
  rw [List.Nodup, List.pairwise_filter, List.pairwise_map, List.pairwise_iff_getElem] at hpairs
  obtain ⟨hilt, rfl⟩ := List.getElem?_eq_some_iff.1 hi
  obtain ⟨hjlt, rfl⟩ := List.getElem?_eq_some_iff.1 hj
  rcases Nat.lt_trichotomy i j with hlt | heq | hlt
  · exact absurd h (hpairs i j hilt hjlt hlt (by simpa using ha) (by simpa [← h] using ha))
  · exact heq
  · exact absurd h.symm (hpairs j i hjlt hilt hlt (by simpa [← h] using ha) (by simpa using ha))

/-- A label stands in one row. -/
theorem row_eq (hs : s.HasDistinctTexts) {p q : s.Place untitled} (h : p.labelPart = q.labelPart) :
    p.row = q.row := by
  have hlabels := (List.nodup_map_iff_inj_on hs.labels.of_map).1 hs.labels
  have hline : p.line = q.line := hlabels p.line (List.getElem_mem _) q.line (List.getElem_mem _) h
  exact Fin.ext ((List.Nodup.getElem_inj_iff hs.labels.of_map).1 hline)

/-- Two cells have the same parts only if one of them has a blank header and the header of the other
reads like its part. -/
theorem readsLike_of_parts_eq (hs : s.HasDistinctTexts) {p q : s.Place untitled} (hne : p ≠ q)
    (hcolumn : p.columnPart = q.columnPart) (hlabel : p.labelPart = q.labelPart) :
    p.ReadsLike q ∨ q.ReadsLike p := by
  have hrow : p.row = q.row := hs.row_eq hlabel
  have hplaces : (p.column : Nat) ≠ q.column := fun h => hne (Place.ext_of_val hrow h)
  rw [Place.columnPart, Place.columnPart] at hcolumn
  by_cases hp : compact p.cell.column = [] <;> by_cases hq : compact q.cell.column = []
  · rw [Field.columnComponent_of_compact_eq_nil hp,
      Field.columnComponent_of_compact_eq_nil hq] at hcolumn
    have hnumbers := ofNat_injective (List.append_cancel_left hcolumn)
    exact absurd (Nat.succ.inj hnumbers) hplaces
  · rw [Field.columnComponent_of_compact_eq_nil hp,
      Field.columnComponent_of_compact_ne_nil hq] at hcolumn
    exact Or.inr ⟨hrow.symm, hp, hcolumn.symm⟩
  · rw [Field.columnComponent_of_compact_ne_nil hp,
      Field.columnComponent_of_compact_eq_nil hq] at hcolumn
    exact Or.inl ⟨hrow, hq, hcolumn⟩
  · rw [Field.columnComponent_of_compact_ne_nil hp,
      Field.columnComponent_of_compact_ne_nil hq] at hcolumn
    exact absurd (hs.eq_of_compact_eq p.cell_spec.1 q.cell_spec.1 hp hcolumn) hplaces

end Section.HasDistinctTexts

theorem Section.Place.ReadsLike.parts_eq {p q : s.Place untitled} (h : p.ReadsLike q) :
    p.columnPart = q.columnPart ∧ p.labelPart = q.labelPart := by
  obtain ⟨hrow, hq, hp⟩ := h
  have hne : compact p.cell.column ≠ [] := by
    rw [hp]
    exact List.cons_ne_nil _ _
  constructor
  · rw [columnPart, columnPart, Field.columnComponent_of_compact_ne_nil hne,
      Field.columnComponent_of_compact_eq_nil hq, hp]
  · have hline : p.line = q.line := congrArg (fun r : Fin s.rows.length => s.rows[r]) hrow
    rw [labelPart, labelPart, hline]

/-- **Cells of one name.**  In a section whose headers differ and whose labels differ, two cells
have fields of one name exactly when the header of one reads like the part that stands in for the
blank header of the other, in one row, or when the part of one column runs into the part of the
other cell's label at an underscore. -/
theorem Section.fieldName_eq_iff (hs : s.HasDistinctTexts) {p q : s.Place untitled} (hne : p ≠ q) :
    p.cell.fieldName = q.cell.fieldName ↔
      (p.ReadsLike q ∨ q.ReadsLike p) ∨ p.RunsInto q ∨ q.RunsInto p := by
  have hnames : p.cell.fieldName = q.cell.fieldName ↔
      p.columnPart ++ '_' :: p.labelPart = q.columnPart ++ '_' :: q.labelPart := by
    rw [p.cell_spec.2, q.cell_spec.2, List.append_cancel_left_eq, List.cons.injEq]
    exact and_iff_right rfl
  have hparts : (p.columnPart = q.columnPart ∧ p.labelPart = q.labelPart) ↔
      p.ReadsLike q ∨ q.ReadsLike p := by
    constructor
    · exact fun h => hs.readsLike_of_parts_eq hne h.1 h.2
    · rintro (h | h)
      · exact h.parts_eq
      · exact ⟨h.parts_eq.1.symm, h.parts_eq.2.symm⟩
  rw [hnames, append_cons_eq_append_cons_iff, hparts]
  rfl

/-- A section with a blank header, and a header and a label that hold underscores. -/
def contract : Section where
  title := none
  headers := ["Field".toList, [], "Col1".toList, "A".toList, "A_B".toList]
  rows := [⟨"B_C".toList, [[], [], [], []]⟩, ⟨"C".toList, [[], [], [], []]⟩]
  error := none

theorem hasDistinctTexts_contract : contract.HasDistinctTexts :=
  ⟨by decide, by decide⟩

/-- The place of a cell of the contract. -/
def contractPlace (row : Fin 2) (column : Fin 4) : contract.Place "Unknown".toList :=
  ⟨row, column.cast (by revert row; decide)⟩

/-- In the contract, `A` over `B_C` is known like `A_B` over `C`, and the blank header like the one
that stands in for it. -/
theorem fieldName_contract :
    (contractPlace 0 2).cell.fieldName = (contractPlace 1 3).cell.fieldName ∧
      (contractPlace 0 0).cell.fieldName = (contractPlace 0 1).cell.fieldName :=
  ⟨(Section.fieldName_eq_iff hasDistinctTexts_contract (by decide)).2
      (.inr (.inl ⟨['B'], by decide, by decide⟩)),
    (Section.fieldName_eq_iff hasDistinctTexts_contract (by decide)).2
      (.inl (.inr ⟨rfl, by decide, by decide⟩))⟩

/-- That the headers of a readable section differ and its labels differ is not enough to tell its
fields apart. -/
theorem not_forall_fieldName_ne :
    ¬ ∀ (untitled : Text) (s : Section), s.isValid = true → s.HasDistinctTexts →
        ∀ p q : s.Place untitled, p ≠ q → p.cell.fieldName ≠ q.cell.fieldName := by
  intro h
  exact h _ contract rfl hasDistinctTexts_contract (contractPlace 0 2) (contractPlace 1 3)
    (by decide) (by decide)

end Signature

end Prepress
