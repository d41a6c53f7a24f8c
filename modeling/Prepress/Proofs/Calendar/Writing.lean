/-
# Writing dates and reading them back

`Piece.Writes` says how a date is written piece by piece, and `Form.written` lists the forms that
are understood.  A piece is read from what it was written as, whatever follows, if only it ends
there (`Piece.read?_of_writes`); so a form whose pieces end one at the other is read from what it
was written as (`Form.read?_of_writes`).

A month's name may also be taken for its abbreviation, or the abbreviation for a name.  A form that
differs from the written one in no more than that reads the same date, or nothing
(`Form.eq_of_read?`).
-/
import Mathlib.Data.List.Chain
import Prepress.Proofs.Calendar.Spelling
import Prepress.Proofs.Calendar.Stamp

namespace Prepress.Calendar

open Text

variable {d : Date}

/-! ## Searching a list -/

/-- What is found in a list is what any of its members gives, if all that give something agree. -/
theorem findSome?_eq_some {α β : Type} {f : α → Option β} {l : List α} {a : α} {b : β} (ha : a ∈ l)
    (hb : f a = some b) (hall : ∀ x ∈ l, ∀ y, f x = some y → y = b) : l.findSome? f = some b := by
  cases h : l.findSome? f with
  | none =>
      rw [List.findSome?_eq_none_iff.1 h a ha] at hb
      exact absurd hb (by simp)
  | some y =>
      obtain ⟨x, hx, hy⟩ := List.exists_of_findSome?_eq_some h
      rw [hall x hx y hy]

/-! ## Written pieces -/

/-- A number below a hundred is written bare or with two digits. -/
def IsFigures (n : Nat) (w : Text) : Prop := w = ofNat n ∨ w = zeroPadded 2 n

/-- How a date is written in a piece: the year with four digits, the month and the day bare or
filled up with a zero, a name in any letter case, a gap as one blank or more. -/
def Piece.Writes (d : Date) : Piece → Text → Prop
  | .year, w => w = zeroPadded 4 d.year
  | .month, w => IsFigures d.month w
  | .day, w => IsFigures d.day w
  | .monthName, w => sameLetters (monthNames.getD (d.month - 1) []) w = true
  | .monthAbbreviation, w => sameLetters (monthAbbreviations.getD (d.month - 1) []) w = true
  | .mark c, w => w = [c]
  | .gap, w => w ≠ [] ∧ isAllBlank w = true

/-- The forms in which a date is written, with figures only or with the name of the month. -/
def Form.written : List Form :=
  [[.year, .mark '-', .month, .mark '-', .day],
    [.year, .mark '/', .month, .mark '/', .day],
    [.month, .mark '/', .day, .mark '/', .year],
    [.day, .mark '.', .month, .mark '.', .year],
    [.year, .mark '.', .month, .mark '.', .day],
    [.day, .gap, .monthAbbreviation, .gap, .year],
    [.day, .gap, .monthName, .gap, .year],
    [.monthAbbreviation, .gap, .day, .gap, .year],
    [.monthName, .gap, .day, .gap, .year],
    [.monthAbbreviation, .gap, .day, .mark ',', .gap, .year],
    [.monthName, .gap, .day, .mark ',', .gap, .year],
    [.day, .mark '-', .monthAbbreviation, .mark '-', .year]]

/-! ## Figures -/

/-- No digit and no letter follows. -/
def IsEnd (r : Text) : Prop := ∀ c, r.head? = some c → isDigit c = false ∧ c.isAlpha = false

theorem IsEnd.ne_of_isDigit {c e : Char} {r : Text} (h : IsEnd (c :: r)) (he : isDigit e = true) :
    c ≠ e := by
  rintro rfl
  rw [(h c rfl).1] at he
  exact Bool.false_ne_true he

/-- A reader that leaves nothing has read the number and the whole text. -/
theorem eq_of_some_nil {m n : Nat} {t : Text} (h : some (m, t) = some (n, [])) :
    m = n ∧ t = [] :=
  Prod.mk.inj (Option.some.inj h)

/-- A month that ends a text is read from the text wherever it ends. -/
theorem readMonth?_append {w r : Text} {n : Nat} (h : Piece.readMonth? w = some (n, []))
    (hr : IsEnd r) : Piece.readMonth? (w ++ r) = some (n, r) := by
  revert h
  fun_cases Piece.readMonth? w with
  | case1 t | case2 t | case3 t =>
      intro h
      obtain ⟨rfl, rfl⟩ := eq_of_some_nil h
      rfl
  | case4 c t hc =>
      intro h
      obtain ⟨rfl, rfl⟩ := eq_of_some_nil h
      exact if_pos hc
  | case6 c t _ _ _ _ hc =>
      intro h
      obtain ⟨rfl, rfl⟩ := eq_of_some_nil h
      have hzero : c ≠ '0' := by
        rintro rfl
        exact absurd hc (by decide)
      cases r with
      | nil => simp [Piece.readMonth?, hc]
      | cons e r =>
          -- a one is not the beginning of ten, eleven or twelve
          have h0 : e ≠ '0' := hr.ne_of_isDigit (by decide)
          have h1 : e ≠ '1' := hr.ne_of_isDigit (by decide)
          have h2 : e ≠ '2' := hr.ne_of_isDigit (by decide)
          simp [Piece.readMonth?, hc, hzero, h0, h1, h2]
  | case5 | case7 | case8 => simp

/-- A day that ends a text is read from the text wherever it ends. -/
theorem readDay?_append {w r : Text} {n : Nat} (h : Piece.readDay? w = some (n, []))
    (hr : IsEnd r) : Piece.readDay? (w ++ r) = some (n, r) := by
  -- the digits that are not read by themselves
  have hne : ∀ {a : Char}, '1' ≤ a ∧ a ≤ '2' ∨ '4' ≤ a ∧ a ≤ '9' →
      a ≠ '3' ∧ a ≠ '0' ∧ a ≠ ' ' := by
    intro a ha
    refine ⟨?_, ?_, ?_⟩ <;> rintro rfl <;> exact absurd ha (by decide)
  revert h
  fun_cases Piece.readDay? w with
  | case1 t | case2 t =>
      intro h
      obtain ⟨rfl, rfl⟩ := eq_of_some_nil h
      rfl
  | case3 t =>
      intro h
      obtain ⟨rfl, rfl⟩ := eq_of_some_nil h
      cases r with
      | nil => rfl
      | cons e r =>
          have h0 : e ≠ '0' := hr.ne_of_isDigit (by decide)
          have h1 : e ≠ '1' := hr.ne_of_isDigit (by decide)
          simp [Piece.readDay?, h0, h1]
  | case4 c t hc | case6 c t hc =>
      intro h
      obtain ⟨rfl, rfl⟩ := eq_of_some_nil h
      exact if_pos hc
  | case8 a _ ha =>
      intro h
      obtain ⟨rfl, -⟩ := eq_of_some_nil h
      obtain ⟨h3, h0, hs⟩ := hne (Or.inl ha)
      cases r with
      | nil => simp [Piece.readDay?, ha]
      | cons e r =>
          -- no second digit follows
          have he : digitValue? e = none := by simpa [isDigit] using (hr e rfl).1
          simp [Piece.readDay?, h3, h0, hs, ha, he]
  | case9 a _ ha b t v hb =>
      intro h
      obtain ⟨rfl, rfl⟩ := eq_of_some_nil h
      obtain ⟨h3, h0, hs⟩ := hne (Or.inl ha)
      simp [Piece.readDay?, h3, h0, hs, ha, hb]
  | case10 a _ _ b t =>
      intro h
      exact absurd (eq_of_some_nil h).2 (by simp)
  | case11 a t _ _ _ _ _ hlow ha =>
      intro h
      obtain ⟨rfl, rfl⟩ := eq_of_some_nil h
      obtain ⟨h3, h0, hs⟩ := hne (Or.inr ha)
      cases r with
      | nil => simp [Piece.readDay?, hlow, ha]
      | cons e r => simp [Piece.readDay?, h3, h0, hs, hlow, ha]
  | case5 | case7 | case12 | case13 => simp

theorem length_year (d : Date) : (zeroPadded 4 d.year).length = 4 :=
  length_zeroPadded (by decide) (Nat.lt_succ_of_le d.year_le)

theorem within_year (d : Date) : Within (isDigit · = true) (zeroPadded 4 d.year) :=
  (within_isDigit_zeroPadded 4 d.year).imp fun _ => isDigit_of_isDigit

/-- The years of the calendar are read from four digits. -/
theorem readYear?_append (d : Date) (r : Text) :
    Piece.readYear? (zeroPadded 4 d.year ++ r) = some (d.year, r) := by
  have hlength := length_year d
  have hdigits := within_isDigit_zeroPadded 4 d.year
  have hvalue := digitsToNat_zeroPadded 4 d.year
  revert hlength hdigits hvalue
  generalize zeroPadded 4 d.year = w
  intro hlength hdigits hvalue
  match w, hlength with
  | [a, b, c, e], _ =>
      simp only [within_cons] at hdigits
      obtain ⟨ha, hb, hc, he, -⟩ := hdigits
      simp only [List.cons_append, List.nil_append, Piece.readYear?, digitValue?_of_isDigit, ha, hb,
        hc, he]
      rw [← hvalue]
      have hfour : digitsToNat [a, b, c, e] = 10 * (10 * (10 * (10 * 0 + (a.toNat - 48)) +
          (b.toNat - 48)) + (c.toNat - 48)) + (e.toNat - 48) := rfl
      rw [hfour]
      simp only [bind, Option.bind_some, pure]
      congr 2
      omega

theorem IsFigures.ne_nil {n : Nat} {w : Text} (h : IsFigures n w) : w ≠ [] := by
  rcases h with rfl | rfl
  · exact ofNat_ne_nil n
  · exact zeroPadded_ne_nil 2 n

theorem IsFigures.within {n : Nat} {w : Text} (h : IsFigures n w) :
    Within (isDigit · = true) w := by
  have hdigits : Within (·.isDigit = true) w := by
    rcases h with rfl | rfl
    · exact within_isDigit_ofNat n
    · exact within_isDigit_zeroPadded 2 n
  exact hdigits.imp fun _ => isDigit_of_isDigit

theorem IsFigures.length_le {n : Nat} {w : Text} (h : IsFigures n w) (hn : n < 100) :
    w.length ≤ 2 := by
  rcases h with rfl | rfl
  · exact (Nat.length_toDigits_le_iff (by decide) (by decide)).2 hn
  · exact (length_zeroPadded (by decide) hn).le

/-- The month of a date is read from its figures. -/
theorem readMonth?_of_isFigures {w : Text} (hw : IsFigures d.month w) :
    Piece.readMonth? w = some (d.month, []) := by
  have hall : ∀ n < 13, 0 < n → Piece.readMonth? (ofNat n) = some (n, []) ∧
      Piece.readMonth? (zeroPadded 2 n) = some (n, []) := by decide +kernel
  obtain ⟨hbare, hpadded⟩ := hall d.month (Nat.lt_succ_of_le d.month_le) d.month_pos
  rcases hw with rfl | rfl
  · exact hbare
  · exact hpadded

/-- The day of a date is read from its figures. -/
theorem readDay?_of_isFigures {w : Text} (hw : IsFigures d.day w) :
    Piece.readDay? w = some (d.day, []) := by
  have hall : ∀ n < 32, 0 < n → Piece.readDay? (ofNat n) = some (n, []) ∧
      Piece.readDay? (zeroPadded 2 n) = some (n, []) := by decide +kernel
  obtain ⟨hbare, hpadded⟩ := hall d.day (Nat.lt_succ_of_le (day_le_thirtyOne d)) d.day_pos
  rcases hw with rfl | rfl
  · exact hbare
  · exact hpadded

/-! ## Names of months -/

theorem sameLetters_iff {a b : Text} :
    sameLetters a b = true ↔ a.map Char.toLower = b.map Char.toLower := beq_iff_eq

theorem length_of_sameLetters {a b : Text} (h : sameLetters a b = true) : a.length = b.length := by
  simpa using congrArg List.length (sameLetters_iff.1 h)

theorem sameLetters_take {a b : Text} (h : sameLetters a b = true) (n : Nat) :
    sameLetters (a.take n) (b.take n) = true := by
  rw [sameLetters_iff, List.map_take, List.map_take, sameLetters_iff.1 h]

/-- The place of the month among the months of its year, from 0. -/
theorem month_sub_one_lt (d : Date) : d.month - 1 < 12 := by
  have hpos := d.month_pos
  have hle := d.month_le
  omega

theorem length_getD_monthAbbreviations : ∀ k < 12, (monthAbbreviations.getD k []).length = 3 := by
  decide

/-- The first three letters of its name tell a month from the others. -/
theorem eq_of_sameLetters {j k : Nat} (hj : j < 12) (hk : k < 12) {t : Text}
    (h₁ : sameLetters (monthAbbreviations.getD j []) t = true)
    (h₂ : sameLetters (monthAbbreviations.getD k []) t = true) : j = k := by
  have hall : ∀ j < 12, ∀ k < 12, sameLetters (monthAbbreviations.getD j [])
      (monthAbbreviations.getD k []) = true → j = k := by decide +kernel
  refine hall j hj k hk ?_
  rw [sameLetters_iff] at h₁ h₂ ⊢
  rw [h₁, h₂]

/-- Words for the months, which are made of letters and begin with the abbreviations. -/
structure AreMonthWords (words : List Text) : Prop where
  take : words.map (·.take 3) = monthAbbreviations
  letters : ∀ word ∈ words, word ≠ [] ∧ ∀ c ∈ word, c.toLower.isLower = true

theorem areMonthWords_monthNames : AreMonthWords monthNames := ⟨rfl, letters_of_mem_monthNames⟩

theorem areMonthWords_monthAbbreviations : AreMonthWords monthAbbreviations :=
  ⟨by decide, letters_of_mem_monthAbbreviations⟩

/-- Letters that begin with the abbreviation of the month of a date. -/
def BeginsMonth (d : Date) (w : Text) : Prop :=
  Within (·.isAlpha = true) w ∧
    sameLetters (monthAbbreviations.getD (d.month - 1) []) (w.take 3) = true

theorem BeginsMonth.three_le_length {w : Text} (h : BeginsMonth d w) : 3 ≤ w.length := by
  have hlength := length_of_sameLetters h.2
  rw [length_getD_monthAbbreviations _ (month_sub_one_lt d), List.length_take] at hlength
  omega

namespace AreMonthWords

variable {words : List Text} (hwords : AreMonthWords words)

include hwords

/-- The word for a month has three letters at least, which are its abbreviation. -/
theorem take_getD {k : Nat} (hk : k < 12) :
    (words.getD k []).take 3 = monthAbbreviations.getD k [] ∧ 3 ≤ (words.getD k []).length := by
  have htake : (words.getD k []).take 3 = monthAbbreviations.getD k [] := by
    rw [← hwords.take, List.getD_eq_getElem?_getD, List.getD_eq_getElem?_getD, List.getElem?_map]
    cases words[k]? <;> rfl
  refine ⟨htake, ?_⟩
  have hlength := length_getD_monthAbbreviations k hk
  rw [← htake, List.length_take] at hlength
  omega

/-- Among words that begin like the names of the months, a text that begins so too can only be read
as the word for its month. -/
theorem readName?_eq {k : Nat} (hk : k < 12) {t : Text}
    (ht : sameLetters (monthAbbreviations.getD k []) (t.take 3) = true) :
    readName? words t =
      if sameLetters (words.getD k []) (t.take (words.getD k []).length) then
        some (k + 1, t.drop (words.getD k []).length)
      else none := by
  have hlength : words.length = 12 := by
    rw [← List.length_map (·.take 3), hwords.take]
    decide
  -- no word before or after it has these letters
  have hunique : ∀ x ∈ words.zipIdx 1,
      sameLetters x.1 (t.take x.1.length) = true → x = (words.getD k [], k + 1) := by
    rintro ⟨word, number⟩ hx hsame
    obtain ⟨hpos, hget⟩ := List.mk_mem_zipIdx_iff_le_and_getElem?_sub.1 hx
    have hword : words.getD (number - 1) [] = word := by
      rw [List.getD_eq_getElem?_getD, hget, Option.getD_some]
    have hlt : number - 1 < 12 := hlength ▸ (List.getElem?_eq_some_iff.1 hget).1
    obtain ⟨htake, hthree⟩ := hwords.take_getD hlt
    rw [hword] at htake hthree
    have hletters := sameLetters_take hsame 3
    rw [htake, List.take_take, Nat.min_eq_left hthree] at hletters
    have hnumber : number - 1 = k := eq_of_sameLetters hlt hk hletters ht
    rw [← hword, hnumber, ← hnumber, Nat.sub_add_cancel hpos]
  have hmem : (words.getD k [], k + 1) ∈ words.zipIdx 1 := by
    rw [List.mk_mem_zipIdx_iff_le_and_getElem?_sub]
    refine ⟨Nat.le_add_left 1 k, ?_⟩
    rw [Nat.add_sub_cancel, List.getD_eq_getElem?_getD, List.getElem?_eq_getElem (hlength ▸ hk),
      Option.getD_some]
  rw [readName?]
  split
  · next hsame =>
    refine findSome?_eq_some hmem (if_pos hsame) ?_
    rintro ⟨word, number⟩ hx y hy
    dsimp only at hy
    split at hy
    · next hother =>
      obtain ⟨rfl, rfl⟩ := Prod.mk.inj (hunique _ hx hother)
      exact (Option.some.inj hy).symm
    · simp at hy
  · next hsame =>
    rw [List.findSome?_eq_none_iff]
    intro x hx
    refine if_neg ?_
    intro hx'
    rw [hunique x hx hx'] at hx'
    exact hsame hx'

/-- The word for a month is made of letters. -/
theorem letters_getD (k : Nat) : ∀ c ∈ words.getD k [], c.toLower.isLower = true := by
  rw [List.getD_eq_getElem?_getD]
  cases hk : words[k]? with
  | none => simp
  | some word => exact (hwords.letters word (List.mem_of_getElem? hk)).2

theorem beginsMonth {w : Text} (hw : sameLetters (words.getD (d.month - 1) []) w = true) :
    BeginsMonth d w := by
  refine ⟨within_isAlpha_of_sameLetters (hwords.letters_getD _) hw, ?_⟩
  rw [← (hwords.take_getD (month_sub_one_lt d)).1]
  exact sameLetters_take hw 3

/-- A month is read from its name, whatever follows. -/
theorem readName?_append {w : Text} (hw : sameLetters (words.getD (d.month - 1) []) w = true)
    (r : Text) : readName? words (w ++ r) = some (d.month, r) := by
  obtain ⟨htake, hthree⟩ := hwords.take_getD (month_sub_one_lt d)
  have hlength := length_of_sameLetters hw
  have hletters :
      sameLetters (monthAbbreviations.getD (d.month - 1) []) ((w ++ r).take 3) = true := by
    rw [List.take_append_of_le_length (hlength ▸ hthree)]
    exact (hwords.beginsMonth hw).2
  rw [hwords.readName?_eq (month_sub_one_lt d) hletters, hlength, List.take_left, List.drop_left,
    if_pos hw, Nat.sub_add_cancel d.month_pos]

/-- If anything is read of letters that begin like the name of a month, it is that month, and all
the letters unless letters are left. -/
theorem of_readName?_append {w r s : Text} {n : Nat} (hw : BeginsMonth d w) (hr : IsEnd r)
    (h : readName? words (w ++ r) = some (n, s)) :
    n = d.month ∧ (s = r ∨ ∃ c, s.head? = some c ∧ c.isAlpha = true) := by
  have hthree := hw.three_le_length
  obtain ⟨halpha, hmonth⟩ := hw
  rw [← List.take_append_of_le_length hthree] at hmonth
  rw [hwords.readName?_eq (month_sub_one_lt d) hmonth] at h
  split at h
  case isFalse => simp at h
  next hsame =>
  obtain ⟨rfl, rfl⟩ := Prod.mk.inj (Option.some.inj h)
  refine ⟨Nat.sub_add_cancel d.month_pos, ?_⟩
  have hletters := hwords.letters_getD (d.month - 1)
  generalize words.getD (d.month - 1) [] = word at hletters hsame ⊢
  rcases Nat.lt_trichotomy word.length w.length with hlt | heq | hgt
  · -- letters are left
    refine Or.inr ⟨w[word.length], ?_, halpha _ (List.getElem_mem hlt)⟩
    rw [List.drop_append_of_le_length hlt.le, List.drop_eq_getElem_cons hlt]
    rfl
  · rw [heq, List.drop_left]
    exact Or.inl rfl
  · -- the word would go on beyond the letters
    exfalso
    have hlength := length_of_sameLetters hsame
    rw [List.length_take, List.length_append] at hlength
    cases r with
    | nil => simp at hlength; omega
    | cons c r =>
        have hc : c ∈ (w ++ c :: r).take word.length := by
          rw [List.take_append]
          refine List.mem_append_right _ ?_
          rw [List.take_cons (Nat.sub_pos_of_lt hgt)]
          exact List.mem_cons_self
        have hbeyond : c.isAlpha = true := within_isAlpha_of_sameLetters hletters hsame c hc
        rw [(hr c rfl).2] at hbeyond
        exact Bool.false_ne_true hbeyond

end AreMonthWords

/-! ## Written pieces are read -/

/-- Where a piece ends: a number or a name before what is neither digit nor letter, a gap before
what is not blank, and a mark anywhere. -/
def Piece.EndsBefore : Piece → Text → Prop
  | .mark _, _ => True
  | .gap, r => ∀ c, r.head? = some c → isBlank c = false
  | _, r => IsEnd r

/-- The parts of a date after a piece has been read. -/
def Piece.fill (d : Date) (parts : Parts) : Piece → Parts
  | .year => { parts with year := d.year }
  | .month | .monthName | .monthAbbreviation => { parts with month := d.month }
  | .day => { parts with day := d.day }
  | .mark _ | .gap => parts

/-- A piece as it may be taken: the name of a month and its abbreviation for one another. -/
def Piece.kind : Piece → Piece
  | .monthAbbreviation => .monthName
  | p => p

/-- How a date shows in a piece that may be taken for another one of its kind. -/
def Piece.Tells (d : Date) : Piece → Text → Prop
  | .monthName, w | .monthAbbreviation, w => BeginsMonth d w
  | p, w => p.Writes d w

theorem Piece.Writes.tells {p : Piece} {w : Text} (h : p.Writes d w) : p.Tells d w := by
  cases p with
  | monthName => exact areMonthWords_monthNames.beginsMonth h
  | monthAbbreviation => exact areMonthWords_monthAbbreviations.beginsMonth h
  | year | month | day | mark | gap => exact h

/-- **A piece is read from what it was written as.** -/
theorem Piece.read?_of_writes {p : Piece} {w r : Text} (hw : p.Writes d w) (hr : p.EndsBefore r)
    (parts : Parts) : p.read? parts (w ++ r) = some (p.fill d parts, r) := by
  cases p with
  | year =>
      have hw : w = zeroPadded 4 d.year := hw
      rw [hw, read?, readYear?_append]
      rfl
  | month =>
      rw [read?, readMonth?_append (readMonth?_of_isFigures hw) hr]
      rfl
  | day =>
      rw [read?, readDay?_append (readDay?_of_isFigures hw) hr]
      rfl
  | monthName =>
      rw [read?, areMonthWords_monthNames.readName?_append hw]
      rfl
  | monthAbbreviation =>
      rw [read?, areMonthWords_monthAbbreviations.readName?_append hw]
      rfl
  | mark c =>
      have hw : w = [c] := hw
      rw [hw]
      exact if_pos rfl
  | gap =>
      obtain ⟨hne, hblank⟩ := hw
      obtain ⟨c, w, rfl⟩ := List.exists_cons_of_ne_nil hne
      rw [isAllBlank, List.all_cons, Bool.and_eq_true] at hblank
      have hrest : trimStart (w ++ r) = r := by
        rw [trimStart_append hblank.2]
        cases r with
        | nil => rfl
        | cons e r => exact trimStart_cons (hr e rfl) r
      rw [List.cons_append, read?, readGap?, if_pos hblank.1, hrest]
      rfl

/-- What is read for a piece that tells a date is the date's, and all the piece is read unless
letters of a name are left. -/
theorem Piece.eq_of_read? {p : Piece} {w r s : Text} {parts parts' : Parts} (hw : p.Tells d w)
    (hr : p.EndsBefore r) (h : p.read? parts (w ++ r) = some (parts', s)) :
    parts' = p.fill d parts ∧
      (s = r ∨ p.kind = .monthName ∧ ∃ c, s.head? = some c ∧ c.isAlpha = true) := by
  -- only a name can be read in two ways
  have hexact : p.Writes d w → parts' = p.fill d parts ∧ s = r := by
    intro hwrites
    rw [read?_of_writes hwrites hr] at h
    exact ⟨(Prod.mk.inj (Option.some.inj h)).1.symm, (Prod.mk.inj (Option.some.inj h)).2.symm⟩
  cases p with
  | monthName =>
      obtain ⟨⟨n, s'⟩, hn, he⟩ := Option.map_eq_some_iff.1 h
      obtain ⟨rfl, rfl⟩ := Prod.mk.inj he
      obtain ⟨rfl, hs⟩ := areMonthWords_monthNames.of_readName?_append hw hr hn
      exact ⟨rfl, hs.imp_right fun hc => ⟨rfl, hc⟩⟩
  | monthAbbreviation =>
      obtain ⟨⟨n, s'⟩, hn, he⟩ := Option.map_eq_some_iff.1 h
      obtain ⟨rfl, rfl⟩ := Prod.mk.inj he
      obtain ⟨rfl, hs⟩ := areMonthWords_monthAbbreviations.of_readName?_append hw hr hn
      exact ⟨rfl, hs.imp_right fun hc => ⟨rfl, hc⟩⟩
  | year | month | day | mark | gap =>
      obtain ⟨hparts, hs⟩ := hexact hw
      exact ⟨hparts, Or.inl hs⟩

/-! ## Written forms are read -/

/-- Whether a piece may stand right after another: numbers and names end at a mark or a gap, and a
gap at a number or a name. -/
def Piece.mayPrecede : (p q : Piece) → Bool
  | .mark _, _ => true
  | .gap, .mark _ | .gap, .gap => false
  | .gap, _ => true
  | _, .mark c => IsSign c
  | _, .gap => true
  | _, _ => false

/-- The characters that what is written for a piece may begin with. -/
def Piece.Begins : Piece → Char → Prop
  | .year, c | .month, c | .day, c => isDigit c = true
  | .monthName, c | .monthAbbreviation, c => c.isAlpha = true
  | .mark m, c => c = m
  | .gap, c => isBlank c = true

theorem Piece.Tells.exists_cons {p : Piece} {w : Text} (h : p.Tells d w) :
    ∃ c t, w = c :: t ∧ p.Begins c := by
  have hfirst : ∀ {P : Char → Prop}, w ≠ [] → Within P w → ∃ c t, w = c :: t ∧ P c := by
    intro P hne hw
    obtain ⟨c, t, rfl⟩ := List.exists_cons_of_ne_nil hne
    exact ⟨c, t, rfl, hw c (by simp)⟩
  have hword : BeginsMonth d w → ∃ c t, w = c :: t ∧ c.isAlpha = true := by
    intro hw
    exact hfirst (List.ne_nil_of_length_pos (Nat.zero_lt_of_lt hw.three_le_length)) hw.1
  cases p with
  | year =>
      obtain rfl : w = zeroPadded 4 d.year := h
      exact hfirst (zeroPadded_ne_nil 4 d.year) (within_year d)
  | month => exact hfirst h.ne_nil h.within
  | day => exact hfirst h.ne_nil h.within
  | monthName => exact hword h
  | monthAbbreviation => exact hword h
  | mark c => exact ⟨c, [], h, rfl⟩
  | gap => exact hfirst h.1 (List.all_eq_true.1 h.2)

/-- A piece ends before what is written for a piece that may stand after it. -/
theorem Piece.endsBefore_of_begins {p q : Piece} (h : p.mayPrecede q = true) {c : Char}
    (hc : q.Begins c) (t : Text) : p.EndsBefore (c :: t) := by
  cases p with
  | mark => trivial
  | gap =>
      intro e he
      obtain rfl : c = e := Option.some.inj he
      cases q with
      | year | month | day =>
          rw [← Bool.not_eq_true]
          intro hblank
          rw [Begins, isDigit_of_isBlank hblank] at hc
          exact Bool.false_ne_true hc
      | monthName | monthAbbreviation => exact isBlank_of_isAlpha hc
      | mark | gap => exact absurd h Bool.false_ne_true
  | year | month | day | monthName | monthAbbreviation =>
      intro e he
      obtain rfl : c = e := Option.some.inj he
      cases q with
      | mark m =>
          obtain rfl : c = m := hc
          have hsign : IsSign c := of_decide_eq_true h
          exact ⟨hsign.1, hsign.2.1⟩
      | gap =>
          refine ⟨isDigit_of_isBlank hc, ?_⟩
          rw [← Bool.not_eq_true]
          intro halpha
          rw [Begins, isBlank_of_isAlpha halpha] at hc
          exact Bool.false_ne_true hc
      | year | month | day | monthName | monthAbbreviation => exact absurd h Bool.false_ne_true

/-- Nothing that may stand after a name is read from a letter. -/
theorem Piece.read?_of_isAlpha {p q : Piece} (hp : p.kind = .monthName)
    (h : p.mayPrecede q = true) {c : Char} (hc : c.isAlpha = true) (parts : Parts) (t : Text) :
    q.read? parts (c :: t) = none := by
  have hafter : q = .gap ∨ ∃ m, q = .mark m ∧ IsSign m := by
    cases p with
    | monthName | monthAbbreviation =>
        cases q with
        | gap => exact Or.inl rfl
        | mark m => exact Or.inr ⟨m, rfl, of_decide_eq_true h⟩
        | year | month | day | monthName | monthAbbreviation =>
            exact absurd h Bool.false_ne_true
    | year | month | day | mark | gap => exact Piece.noConfusion hp
  rcases hafter with rfl | ⟨m, rfl, hm⟩
  · rw [read?, readGap?, isBlank_of_isAlpha hc]
    rfl
  · refine if_neg ?_
    rintro rfl
    rw [hm.2.1] at hc
    exact Bool.false_ne_true hc

/-- A piece ends before what is written for the form that stands after it. -/
theorem Piece.endsBefore_flatten {p : Piece} {f : Form} {ws : List Text}
    (h : ∀ q ∈ f.head?, p.mayPrecede q = true) (hws : List.Forall₂ (Piece.Tells d) f ws) :
    p.EndsBefore ws.flatten := by
  cases hws with
  | nil =>
      -- at the end of the text nothing follows
      cases p with
      | mark => trivial
      | year | month | day | monthName | monthAbbreviation | gap => nofun
  | @cons q w f ws hw hws =>
      obtain ⟨c, t, rfl, hc⟩ := hw.exists_cons
      exact endsBefore_of_begins (h q rfl) hc _

namespace Form

/-- A form of which each piece may precede the next. -/
abbrev IsSeparated (f : Form) : Prop := f.IsChain (Piece.mayPrecede · · = true)

theorem isSeparated_cons {p : Piece} {f : Form} :
    IsSeparated (p :: f) ↔ (∀ q ∈ f.head?, p.mayPrecede q = true) ∧ IsSeparated f := by
  rw [IsSeparated, List.isChain_cons]

/-- The parts of a date after a form has been read. -/
def fill (d : Date) (f : Form) (parts : Parts) : Parts := f.foldl (Piece.fill d) parts

/-- **A form is read from what it was written as.** -/
theorem readPieces?_of_writes {f : Form} {ws : List Text} (hf : f.IsSeparated)
    (hws : List.Forall₂ (Piece.Writes d) f ws) (parts : Parts) :
    f.readPieces? parts ws.flatten = some (f.fill d parts, []) := by
  induction hws generalizing parts with
  | nil => rfl
  | @cons p w f ws hw hws ih =>
      obtain ⟨hp, hf⟩ := isSeparated_cons.1 hf
      have hend : p.EndsBefore ws.flatten :=
        Piece.endsBefore_flatten hp (hws.imp fun _ _ => Piece.Writes.tells)
      rw [List.flatten_cons, readPieces?, Piece.read?_of_writes hw hend]
      exact ih hf (p.fill d parts)

/-- If a form that tells a date is read to the end, the date is read. -/
theorem eq_of_readPieces? {f : Form} {ws : List Text} (hf : f.IsSeparated)
    (hws : List.Forall₂ (Piece.Tells d) f ws) {parts parts' : Parts}
    (h : f.readPieces? parts ws.flatten = some (parts', [])) : parts' = f.fill d parts := by
  induction hws generalizing parts with
  | nil => exact (Prod.mk.inj (Option.some.inj h)).1.symm
  | @cons p w f ws hw hws ih =>
      obtain ⟨hp, hf⟩ := isSeparated_cons.1 hf
      rw [List.flatten_cons, readPieces?] at h
      obtain ⟨⟨parts₁, s⟩, hpiece, hrest⟩ := Option.bind_eq_some_iff.1 h
      obtain ⟨rfl, hs⟩ := Piece.eq_of_read? hw (Piece.endsBefore_flatten hp hws) hpiece
      rcases hs with rfl | ⟨hname, c, hc, halpha⟩
      · exact ih hf hrest
      · -- the letters that are left are no mark and no gap, and not the end either
        obtain ⟨t, rfl⟩ := List.head?_eq_some_iff.1 hc
        cases f with
        | nil => simp [readPieces?] at hrest
        | cons q f =>
            dsimp only at hrest
            rw [readPieces?, Piece.read?_of_isAlpha hname (hp q rfl) halpha] at hrest
            exact absurd hrest (by simp)

theorem isSeparated_of_mem_written : ∀ f ∈ written, IsSeparated f := by decide +kernel

/-- A written form gives all parts of a date. -/
theorem fill_of_mem_written {f : Form} (hf : f ∈ written) (parts : Parts) :
    f.fill d parts = ⟨d.year, d.month, d.day⟩ := by
  simp only [written, List.mem_cons, List.not_mem_nil, or_false] at hf
  rcases hf with rfl | rfl | rfl | rfl | rfl | rfl | rfl | rfl | rfl | rfl | rfl | rfl
  all_goals rfl

/-- **A date is read from what it was written as in a form.** -/
theorem read?_of_writes {f : Form} {ws : List Text} (hf : f ∈ written)
    (hws : List.Forall₂ (Piece.Writes d) f ws) : f.read? ws.flatten = some d := by
  rw [read?, readPieces?_of_writes (isSeparated_of_mem_written f hf) hws, fill_of_mem_written hf]
  exact d.of?_self

/-- A form that tells a date reads no other one. -/
theorem eq_of_read? {f : Form} {ws : List Text} {d' : Date} (hf : f ∈ written)
    (hws : List.Forall₂ (Piece.Tells d) f ws) (h : f.read? ws.flatten = some d') : d' = d := by
  rw [read?] at h
  split at h
  · next parts hread =>
      rw [eq_of_readPieces? (isSeparated_of_mem_written f hf) hws hread, fill_of_mem_written hf,
        Date.of?_self] at h
      exact (Option.some.inj h).symm
  · simp at h

/-- What is written in a form tells the date in every form of its kind. -/
theorem tells_of_kind {f g : Form} {ws : List Text} (h : f.map Piece.kind = g.map Piece.kind)
    (hws : List.Forall₂ (Piece.Writes d) f ws) : List.Forall₂ (Piece.Tells d) g ws := by
  have hkind : ∀ {p : Piece} {w : Text}, p.Tells d w ↔ p.kind.Tells d w := by
    intro p w
    cases p <;> rfl
  have hf : List.Forall₂ (Piece.Tells d) (f.map Piece.kind) ws := by
    rw [List.forall₂_map_left_iff]
    exact hws.imp fun _ _ hw => hkind.1 hw.tells
  rw [h, List.forall₂_map_left_iff] at hf
  exact hf.imp fun _ _ => hkind.2

end Form

end Prepress.Calendar
