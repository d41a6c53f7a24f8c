/-
# How dates are spelled

A form is read from the spellings of its pieces, one after the other: a year from four digits, a
month or a day from two characters at most, a name from letters, a gap from blanks
(`Piece.exists_of_read?`, `Form.exists_of_read?`).  So a text can be told not to be a date by what
it is made of:

* `four_le_countP_of_instant?` : whatever names a moment has the four digits of a year;
* `exists_comma_of_trim` : what stands before the comma of a date is no date, as it has two digits
  at most.
-/
import Mathlib.Data.List.Forall2
import Prepress.Calendar.Reading
import Prepress.Proofs.Text.Lines

namespace Prepress.Calendar

open Text

/-! ## Digits -/

theorem isDigit_of_isBlank {c : Char} (h : isBlank c = true) : isDigit c = false := by
  have hall : ∀ n ∈ blankCodes, isDigit (Char.ofNat n) = false := by decide +kernel
  exact forall_of_isBlank (P := fun c => isDigit c = false) hall h

theorem isDigit_of_isAlpha {c : Char} (h : c.isAlpha = true) : isDigit c = false := by
  have hall : ∀ n < 128, (Char.ofNat n).isAlpha = true → isDigit (Char.ofNat n) = false := by
    decide +kernel
  have hcode := toNat_of_isAlpha h
  have hc := hall c.toNat (by omega)
  rw [Char.ofNat_toNat] at hc
  exact hc h

theorem isBlank_of_isAlpha {c : Char} (h : c.isAlpha = true) : isBlank c = false := by
  have hcode := toNat_of_isAlpha h
  rw [← Bool.not_eq_true]
  intro hb
  simp only [isBlank, Bool.or_eq_true, Bool.and_eq_true, decide_eq_true_eq, beq_iff_eq] at hb
  omega

/-- An ASCII digit is a digit. -/
theorem isDigit_of_isDigit {c : Char} (h : c.isDigit = true) : isDigit c = true := by
  rw [isDigit, digitValue?_of_isDigit h]
  rfl

theorem isDigit_of_le {a b c : Char} (ha : '0' ≤ a) (hb : b ≤ '9') (h : a ≤ c ∧ c ≤ b) :
    isDigit c = true := by
  refine isDigit_of_isDigit ?_
  rw [Char.isDigit, Bool.and_eq_true, decide_eq_true_eq, decide_eq_true_eq]
  exact ⟨Char.le_trans ha h.1, Char.le_trans h.2 hb⟩

/-! ## Pieces -/

/-- One or two characters that are digits or spaces. -/
def IsShortNumeral (w : Text) : Prop :=
  w ≠ [] ∧ w.length ≤ 2 ∧ Within (fun c => isDigit c = true ∨ c = ' ') w

instance (w : Text) : Decidable (IsShortNumeral w) := by
  unfold IsShortNumeral
  infer_instance

/-- How a piece is spelled: what is read for it is of this kind, and not everything of this kind is
read for it. -/
def Piece.Spells : Piece → Text → Prop
  | .year, w => w.length = 4 ∧ Within (isDigit · = true) w
  | .month, w | .day, w => IsShortNumeral w
  | .monthName, w | .monthAbbreviation, w => w ≠ [] ∧ Within (·.isAlpha = true) w
  | .mark c, w => w = [c]
  | .gap, w => Within (isBlank · = true) w

namespace Piece

theorem exists_of_readYear? {t r : Text} {n : Nat} (h : readYear? t = some (n, r)) :
    ∃ w, t = w ++ r ∧ w.length = 4 ∧ Within (isDigit · = true) w := by
  revert h
  fun_cases readYear? t with
  | case1 a b c d t =>
      intro h
      simp only [bind, Option.bind_eq_some_iff, pure, Option.some.injEq, Prod.mk.injEq] at h
      obtain ⟨va, ha, vb, hb, vc, hc, vd, hd, -, rfl⟩ := h
      have hdigit : ∀ {e : Char} {v : Nat}, digitValue? e = some v → isDigit e = true := by
        intro e v he
        rw [isDigit, he]
        rfl
      refine ⟨[a, b, c, d], rfl, rfl, ?_⟩
      simp only [within_cons, within_nil, and_true]
      exact ⟨hdigit ha, hdigit hb, hdigit hc, hdigit hd⟩
  | case2 => simp

/-- One digit is taken from a text. -/
theorem exists_of_take_one {a : Char} (ha : isDigit a = true) {t r : Text} {m n : Nat}
    (h : some (m, t) = some (n, r)) : ∃ w, a :: t = w ++ r ∧ IsShortNumeral w := by
  rw [Option.some.injEq, Prod.mk.injEq] at h
  exact ⟨[a], by rw [h.2]; rfl, by simp, by simp, within_cons.2 ⟨Or.inl ha, within_nil⟩⟩

/-- A digit is taken from a text together with a digit or a space before it. -/
theorem exists_of_take_two {a b : Char} (ha : isDigit a = true ∨ a = ' ') (hb : isDigit b = true)
    {t r : Text} {m n : Nat} (h : some (m, t) = some (n, r)) :
    ∃ w, a :: b :: t = w ++ r ∧ IsShortNumeral w := by
  rw [Option.some.injEq, Prod.mk.injEq] at h
  exact ⟨[a, b], by rw [h.2]; rfl, by simp, by simp,
    within_cons.2 ⟨ha, within_cons.2 ⟨Or.inl hb, within_nil⟩⟩⟩

theorem exists_of_readMonth? {t r : Text} {n : Nat} (h : readMonth? t = some (n, r)) :
    ∃ w, t = w ++ r ∧ IsShortNumeral w := by
  have hdigit : ∀ {c : Char}, '1' ≤ c ∧ c ≤ '9' → isDigit c = true :=
    isDigit_of_le (by decide) (by decide)
  revert h
  fun_cases readMonth? t with
  | case1 t => exact exists_of_take_two (by decide) (by decide)
  | case2 t => exact exists_of_take_two (by decide) (by decide)
  | case3 t => exact exists_of_take_two (by decide) (by decide)
  | case4 c t hc => exact exists_of_take_two (by decide) (hdigit hc)
  | case5 => simp
  | case6 c t _ _ _ _ hc => exact exists_of_take_one (hdigit hc)
  | case7 => simp
  | case8 => simp

theorem exists_of_readDay? {t r : Text} {n : Nat} (h : readDay? t = some (n, r)) :
    ∃ w, t = w ++ r ∧ IsShortNumeral w := by
  have hdigit : ∀ {c : Char}, '1' ≤ c ∧ c ≤ '9' → isDigit c = true :=
    isDigit_of_le (by decide) (by decide)
  have htens : ∀ {c : Char}, '1' ≤ c ∧ c ≤ '2' → isDigit c = true :=
    isDigit_of_le (by decide) (by decide)
  revert h
  fun_cases readDay? t with
  | case1 t => exact exists_of_take_two (by decide) (by decide)
  | case2 t => exact exists_of_take_two (by decide) (by decide)
  | case3 t => exact exists_of_take_one (by decide)
  | case4 c t hc => exact exists_of_take_two (by decide) (hdigit hc)
  | case5 => simp
  | case6 c t hc => exact exists_of_take_two (by decide) (hdigit hc)
  | case7 => simp
  | case8 a _ ha => exact exists_of_take_one (htens ha)
  | case9 a _ ha b t v hb =>
      exact exists_of_take_two (Or.inl (htens ha)) (by rw [isDigit, hb]; rfl)
  | case10 a _ ha b t hb => exact exists_of_take_one (htens ha)
  | case11 a t _ _ _ _ _ _ ha => exact exists_of_take_one (isDigit_of_le (by decide) (by decide) ha)
  | case12 => simp
  | case13 => simp

theorem exists_of_readGap? {t r : Text} (h : readGap? t = some r) :
    ∃ w, t = w ++ r ∧ Within (isBlank · = true) w := by
  revert h
  fun_cases readGap? t with
  | case1 => simp
  | case2 c t hc =>
      intro h
      refine ⟨c :: t.takeWhile isBlank, ?_, within_cons.2 ⟨hc, ?_⟩⟩
      · rw [← Option.some.inj h, trimStart, List.cons_append, List.takeWhile_append_dropWhile]
      · intro d hd
        exact List.mem_takeWhile_imp hd
  | case3 => simp

end Piece

/-- What agrees with a word of letters, letter case aside, is made of letters. -/
theorem within_isAlpha_of_sameLetters {word w : Text}
    (hword : ∀ c ∈ word, c.toLower.isLower = true) (h : sameLetters word w = true) :
    Within (·.isAlpha = true) w := by
  intro c hc
  rw [sameLetters, beq_iff_eq] at h
  have hm : c.toLower ∈ word.map Char.toLower := by
    rw [h]
    exact List.mem_map_of_mem hc
  obtain ⟨d, hd, he⟩ := List.mem_map.1 hm
  apply isAlpha_of_isLower_toLower
  rw [← he]
  exact hword d hd

/-- A name is read from letters. -/
theorem exists_of_readName? {words : List Text}
    (hwords : ∀ word ∈ words, word ≠ [] ∧ ∀ c ∈ word, c.toLower.isLower = true) {t r : Text}
    {n : Nat} (h : readName? words t = some (n, r)) :
    ∃ w, t = w ++ r ∧ w ≠ [] ∧ Within (·.isAlpha = true) w := by
  obtain ⟨⟨word, number⟩, hmem, hw⟩ := List.exists_of_findSome?_eq_some h
  dsimp only at hw
  split at hw
  · next hsame =>
      rw [Option.some.injEq, Prod.mk.injEq] at hw
      obtain ⟨hne, hlower⟩ := hwords word (List.fst_mem_of_mem_zipIdx hmem)
      refine ⟨t.take word.length, by rw [← hw.2, List.take_append_drop], ?_,
        within_isAlpha_of_sameLetters hlower hsame⟩
      intro hnil
      rw [hnil, sameLetters, beq_iff_eq, List.map_nil, List.map_eq_nil_iff] at hsame
      exact hne hsame
  · simp at hw

theorem letters_of_mem_monthNames :
    ∀ word ∈ monthNames, word ≠ [] ∧ ∀ c ∈ word, c.toLower.isLower = true := by
  decide +kernel

theorem letters_of_mem_monthAbbreviations :
    ∀ word ∈ monthAbbreviations, word ≠ [] ∧ ∀ c ∈ word, c.toLower.isLower = true := by
  decide +kernel

/-- A piece is read from its spelling. -/
theorem Piece.exists_of_read? {p : Piece} {parts parts' : Parts} {t r : Text}
    (h : p.read? parts t = some (parts', r)) : ∃ w, t = w ++ r ∧ p.Spells w := by
  -- only what is left of the text counts
  have hrest : ∀ {x : Option (Nat × Text)} {f : Nat × Text → Parts × Text},
      x.map f = some (parts', r) → (∀ n s, (f (n, s)).2 = s) → ∃ n, x = some (n, r) := by
    intro x f hx hf
    obtain ⟨⟨n, s⟩, hn, he⟩ := Option.map_eq_some_iff.1 hx
    have hs : s = r := by rw [← hf n s, he]
    exact ⟨n, by rw [hn, hs]⟩
  cases p with
  | year =>
      obtain ⟨n, hn⟩ := hrest h fun _ _ => rfl
      exact exists_of_readYear? hn
  | month =>
      obtain ⟨n, hn⟩ := hrest h fun _ _ => rfl
      exact exists_of_readMonth? hn
  | day =>
      obtain ⟨n, hn⟩ := hrest h fun _ _ => rfl
      exact exists_of_readDay? hn
  | monthName =>
      obtain ⟨n, hn⟩ := hrest h fun _ _ => rfl
      exact exists_of_readName? letters_of_mem_monthNames hn
  | monthAbbreviation =>
      obtain ⟨n, hn⟩ := hrest h fun _ _ => rfl
      exact exists_of_readName? letters_of_mem_monthAbbreviations hn
  | mark c =>
      cases t with
      | nil => simp [read?] at h
      | cons d t =>
          rw [read?] at h
          split at h
          · next hc =>
              rw [Option.some.injEq, Prod.mk.injEq] at h
              exact ⟨[d], by rw [h.2]; rfl, by rw [hc]; rfl⟩
          · simp at h
  | gap =>
      obtain ⟨s, hs, he⟩ := Option.map_eq_some_iff.1 h
      rw [← (Prod.mk.inj he).2]
      exact exists_of_readGap? hs

/-! ## Forms -/

/-- The pieces of a form are read from their spellings one after the other. -/
theorem Form.exists_of_readPieces? {f : Form} {parts parts' : Parts} {t r : Text}
    (h : f.readPieces? parts t = some (parts', r)) :
    ∃ ws, t = ws.flatten ++ r ∧ List.Forall₂ Piece.Spells f ws := by
  induction f generalizing parts t with
  | nil =>
      rw [readPieces?, Option.some.injEq, Prod.mk.injEq] at h
      exact ⟨[], h.2, .nil⟩
  | cons p f ih =>
      rw [readPieces?] at h
      obtain ⟨⟨read, s⟩, hp, hf⟩ := Option.bind_eq_some_iff.1 h
      obtain ⟨w, rfl, hw⟩ := p.exists_of_read? hp
      obtain ⟨ws, rfl, hws⟩ := ih hf
      exact ⟨w :: ws, by rw [List.flatten_cons, List.append_assoc], .cons hw hws⟩

/-- A date of a form is spelled as the form says. -/
theorem Form.exists_of_read? {f : Form} {t : Text} {d : Date} (h : f.read? t = some d) :
    ∃ ws, t = ws.flatten ∧ List.Forall₂ Piece.Spells f ws := by
  rw [read?] at h
  split at h
  · next parts hread =>
      obtain ⟨ws, ht, hws⟩ := exists_of_readPieces? hread
      exact ⟨ws, by rw [ht, List.append_nil], hws⟩
  · simp at h

/-! ## Years -/

/-- A form with a year has the four digits of the year. -/
theorem four_le_countP_of_spells {f : Form} (hyear : Piece.year ∈ f) {ws : List Text}
    (h : List.Forall₂ Piece.Spells f ws) : 4 ≤ ws.flatten.countP isDigit := by
  induction h with
  | nil => simp at hyear
  | @cons p w f ws hw _ ih =>
      rw [List.flatten_cons, List.countP_append]
      rcases List.mem_cons.1 hyear with rfl | hyear
      · obtain ⟨hlength, hdigits⟩ := hw
        rw [List.countP_eq_length.2 hdigits, hlength]
        omega
      · have := ih hyear
        omega

theorem four_le_countP_of_numericDate? {t : Text} {d : Date} (h : numericDate? t = some d) :
    4 ≤ t.countP isDigit := by
  have hyear : ∀ x ∈ Shape.numeric, Piece.year ∈ x.2 := by
    simp [Shape.numeric, Form.yearMonthDay, Form.monthDayYear]
  obtain ⟨x, hx, hread⟩ := List.exists_of_findSome?_eq_some h
  dsimp only at hread
  split at hread
  · obtain ⟨ws, rfl, hws⟩ := Form.exists_of_read? hread
    exact four_le_countP_of_spells (hyear x hx) hws
  · simp at hread

theorem exists_of_generalDate? {t : Text} {d : Date} (h : generalDate? t = some d) :
    ∃ f ∈ Form.general, ∃ ws, t = ws.flatten ∧ List.Forall₂ Piece.Spells f ws := by
  obtain ⟨f, hf, hread⟩ := List.exists_of_findSome?_eq_some h
  exact ⟨f, hf, Form.exists_of_read? hread⟩

theorem four_le_countP_of_generalDate? {t : Text} {d : Date} (h : generalDate? t = some d) :
    4 ≤ t.countP isDigit := by
  have hyear : ∀ f ∈ Form.general, Piece.year ∈ f := by
    simp [Form.general, Form.yearMonthDay]
  obtain ⟨f, hf, ws, rfl, hws⟩ := exists_of_generalDate? h
  exact four_le_countP_of_spells (hyear f hf) hws

/-- A date in the international form begins with the four digits of the year, and a hyphen, a `W`
or a digit stands after them. -/
theorem exists_of_isoDate? {t : Text} {d : Date} (h : Iso.date? t = some d) :
    ∃ y c u, t = y ++ c :: u ∧ y.length = 4 ∧ Within (·.isDigit = true) y ∧
      (c = '-' ∨ c = 'W' ∨ c.isDigit = true) := by
  have hnumber : ∀ {t : Text} {n : Nat}, Iso.number? t = some n → Within (·.isDigit = true) t := by
    intro t n hn
    rw [Iso.number?] at hn
    split at hn
    · next hall => exact List.all_eq_true.1 hall
    · simp at hn
  match t with
  | [] => simp [Iso.date?] at h
  | [_] => simp [Iso.date?] at h
  | [_, _] => simp [Iso.date?] at h
  | [_, _, _] => simp [Iso.date?] at h
  | y₁ :: y₂ :: y₃ :: y₄ :: u =>
      rw [Iso.date?] at h
      obtain ⟨year, hyear, hrest⟩ := Option.bind_eq_some_iff.1 h
      have hfirst : ∀ {c : Char} {v : Text}, c = '-' ∨ c = 'W' ∨ c.isDigit = true →
          ∃ y e u, y₁ :: y₂ :: y₃ :: y₄ :: c :: v = y ++ e :: u ∧ y.length = 4 ∧
            Within (·.isDigit = true) y ∧ (e = '-' ∨ e = 'W' ∨ e.isDigit = true) :=
        fun hc => ⟨[y₁, y₂, y₃, y₄], _, _, rfl, rfl, hnumber hyear, hc⟩
      split at hrest
      · exact hfirst (Or.inl rfl)
      · exact hfirst (Or.inl rfl)
      · exact hfirst (Or.inr (Or.inl rfl))
      · exact hfirst (Or.inr (Or.inl rfl))
      · exact hfirst (Or.inl rfl)
      · obtain ⟨month, hmonth, -⟩ := Option.bind_eq_some_iff.1 hrest
        exact hfirst (Or.inr (Or.inr (hnumber hmonth _ (by simp))))
      · simp at hrest

/-- A moment in the international form begins like a date. -/
theorem exists_of_isoInstant? {t : Text} {i : Instant} (h : Iso.instant? t = some i) :
    ∃ y c u, t = y ++ c :: u ∧ y.length = 4 ∧ Within (·.isDigit = true) y ∧
      (c = '-' ∨ c = 'W' ∨ c.isDigit = true) := by
  rw [Iso.instant?] at h
  split at h
  · simp at h
  · obtain ⟨d, hd, -⟩ := Option.bind_eq_some_iff.1 h
    obtain ⟨y, c, u, ht, hy⟩ := exists_of_isoDate? hd
    refine ⟨y, c, u ++ t.drop (Iso.dateLength t), ?_, hy⟩
    rw [← List.cons_append, ← List.append_assoc, ← ht, List.take_append_drop]

theorem four_le_countP_of_isoInstant? {t : Text} {i : Instant} (h : Iso.instant? t = some i) :
    4 ≤ t.countP isDigit := by
  obtain ⟨y, c, u, rfl, hlength, hdigits, -⟩ := exists_of_isoInstant? h
  rw [List.countP_append, List.countP_eq_length.2 fun c hc => isDigit_of_isDigit (hdigits c hc),
    hlength]
  exact Nat.le_add_right 4 _

/-- **Whatever names a moment has the four digits of a year.** -/
theorem four_le_countP_of_instant? {t : Text} {i : Instant} (h : instant? t = some i) :
    4 ≤ t.countP isDigit := by
  have htrim : 4 ≤ (trim t).countP isDigit := by
    rw [instant?] at h
    rcases Option.or_eq_some_iff.1 h with h | ⟨-, h⟩
    · obtain ⟨d, hd, -⟩ := Option.map_eq_some_iff.1 h
      exact four_le_countP_of_numericDate? hd
    · rcases Option.or_eq_some_iff.1 h with h | ⟨-, h⟩
      · exact four_le_countP_of_isoInstant? h
      · obtain ⟨d, hd, -⟩ := Option.map_eq_some_iff.1 h
        exact four_le_countP_of_generalDate? hd
  exact htrim.trans (trim_sublist t).countP_le

/-- Blanks around a date do not count. -/
theorem instant?_trim (t : Text) : instant? (trim t) = instant? t := by
  rw [instant?, instant?, trim_trim]

theorem countP_eq_zero_of_isAllBlank {t : Text} (h : isAllBlank t = true) :
    t.countP isDigit = 0 := by
  rw [List.countP_eq_zero]
  intro c hc
  simp [isDigit_of_isBlank (List.all_eq_true.1 h c hc)]

/-- A date is not blank. -/
theorem isAllBlank_eq_false_of_instant? {t : Text} {i : Instant} (h : instant? t = some i) :
    isAllBlank t = false := by
  rw [← Bool.not_eq_true]
  intro hblank
  have hdigits := four_le_countP_of_instant? h
  rw [countP_eq_zero_of_isAllBlank hblank] at hdigits
  omega

/-! ## Marks -/

/-- A character that stands for itself alone: no digit, no letter and no blank. -/
def IsSign (c : Char) : Prop := isDigit c = false ∧ c.isAlpha = false ∧ isBlank c = false

instance : DecidablePred IsSign := fun _ => inferInstanceAs (Decidable (_ ∧ _))

/-- A sign in the spelling of a piece is the piece. -/
theorem Piece.Spells.eq_of_mem {p : Piece} {w : Text} (h : p.Spells w) {c : Char} (hc : IsSign c)
    (hm : c ∈ w) : p = .mark c := by
  obtain ⟨hdigit, halpha, hblank⟩ := hc
  cases p with
  | year => exact absurd (h.2 c hm) (by simp [hdigit])
  | month | day =>
      rcases h.2.2 c hm with hd | rfl
      · exact absurd hd (by simp [hdigit])
      · exact absurd hblank (by decide)
  | monthName => exact absurd (h.2 c hm) (by simp [halpha])
  | monthAbbreviation => exact absurd (h.2 c hm) (by simp [halpha])
  | mark c' =>
      have hw : w = [c'] := h
      rw [hw, List.mem_singleton] at hm
      rw [hm]
  | gap => exact absurd (h c hm) (by simp [hblank])

/-- The signs in a text are the marks of its form. -/
theorem mem_flatten_iff {f : Form} {ws : List Text} (h : List.Forall₂ Piece.Spells f ws) {c : Char}
    (hc : IsSign c) : c ∈ ws.flatten ↔ Piece.mark c ∈ f := by
  induction h with
  | nil => simp
  | @cons p w f ws hw _ ih =>
      have hpiece : c ∈ w ↔ Piece.mark c = p := by
        constructor
        · exact fun hm => (hw.eq_of_mem hc hm).symm
        · rintro rfl
          have hw : w = [c] := hw
          rw [hw]
          exact List.mem_singleton_self c
      rw [List.flatten_cons, List.mem_append, List.mem_cons, hpiece, ih]

/-! ## Commas -/

/-- In the general forms a comma stands after a name, a gap and a day. -/
theorem Form.eq_of_comma {f : Form} (hf : f ∈ general) (hc : Piece.mark ',' ∈ f) :
    ∃ p, (p = .monthName ∨ p = .monthAbbreviation) ∧
      f = [p, .gap, .day, .mark ',', .gap, .year] := by
  simp only [general, yearMonthDay, List.mem_cons, List.not_mem_nil, or_false] at hf
  rcases hf with rfl | rfl | rfl | rfl | rfl | rfl | rfl | rfl | rfl
  all_goals simp at hc
  all_goals simp

/-- What stands before the comma of a date is not blank and has two digits at most. -/
theorem exists_comma_of_generalDate? {t : Text} {d : Date} (h : generalDate? t = some d)
    (hc : ',' ∈ t) :
    ∃ a b, t = a ++ ',' :: b ∧ ',' ∉ a ∧ isAllBlank a = false ∧ a.countP isDigit ≤ 2 := by
  obtain ⟨f, hf, ws, rfl, hws⟩ := exists_of_generalDate? h
  obtain ⟨p, hp, rfl⟩ := Form.eq_of_comma hf ((mem_flatten_iff hws (by decide)).1 hc)
  obtain ⟨name, ws₁, hname, h₁, rfl⟩ := List.forall₂_cons_left_iff.1 hws
  obtain ⟨gap, ws₂, hgap, h₂, rfl⟩ := List.forall₂_cons_left_iff.1 h₁
  obtain ⟨day, ws₃, hday, h₃, rfl⟩ := List.forall₂_cons_left_iff.1 h₂
  obtain ⟨comma, ws₄, hcomma, -, rfl⟩ := List.forall₂_cons_left_iff.1 h₃
  have hletters : name ≠ [] ∧ Within (·.isAlpha = true) name := by
    rcases hp with rfl | rfl
    · exact hname
    · exact hname
  refine ⟨name ++ gap ++ day, ws₄.flatten, ?_, ?_, ?_, ?_⟩
  · have hmark : comma = [','] := hcomma
    simp only [hmark, List.flatten_cons, List.append_assoc, List.singleton_append]
  · have hnot : ∀ {q : Piece} {w : Text}, q.Spells w → q ≠ .mark ',' → ',' ∉ w :=
      fun hw hq hc => hq (hw.eq_of_mem (by decide) hc)
    have hpiece : p ≠ .mark ',' := by
      rcases hp with rfl | rfl
      · simp
      · simp
    rw [List.mem_append, List.mem_append, not_or, not_or]
    exact ⟨⟨hnot hname hpiece, hnot hgap (by simp)⟩, hnot hday (by simp)⟩
  · obtain ⟨c, t, rfl⟩ := List.exists_cons_of_ne_nil hletters.1
    have hc : isBlank c = false := isBlank_of_isAlpha (hletters.2 c (by simp))
    rw [List.cons_append, List.cons_append, isAllBlank, List.all_cons, hc, Bool.false_and]
  · have hname : name.countP isDigit = 0 :=
      List.countP_eq_zero.2 fun c hc => by simp [isDigit_of_isAlpha (hletters.2 c hc)]
    have hgap : gap.countP isDigit = 0 :=
      List.countP_eq_zero.2 fun c hc => by simp [isDigit_of_isBlank (hgap c hc)]
    have hday : day.countP isDigit ≤ 2 := List.countP_le_length.trans hday.2.1
    rw [List.countP_append, List.countP_append]
    omega

/-- What stands before the comma of a date is no date itself. -/
theorem exists_comma_of_trim {date : Text} {d : Date} (hcomma : ',' ∈ date)
    (hdate : generalDate? (trim date) = some d) :
    ∃ a b, date = a ++ ',' :: b ∧ ',' ∉ a ∧ isAllBlank a = false ∧ instant? a = none := by
  obtain ⟨x, y, hx, hy, hxy⟩ := exists_trim date
  have hout : ∀ {t : Text}, isAllBlank t = true → ',' ∉ t :=
    fun ht => not_mem_of_isAllBlank ht (by decide)
  have htrim : ',' ∈ trim date := by
    rw [hxy, List.mem_append, List.mem_append] at hcomma
    rcases hcomma with h | h | h
    · exact absurd h (hout hx)
    · exact h
    · exact absurd h (hout hy)
  obtain ⟨a, b, hab, ha, hblank, hdigits⟩ := exists_comma_of_generalDate? hdate htrim
  refine ⟨x ++ a, b ++ y, ?_, ?_, ?_, ?_⟩
  · rw [hxy, hab]
    simp only [List.append_assoc, List.cons_append]
  · rw [List.mem_append, not_or]
    exact ⟨hout hx, ha⟩
  · rw [isAllBlank, List.all_append, ← isAllBlank, ← isAllBlank, hblank, Bool.and_false]
  · rw [Option.eq_none_iff_forall_ne_some]
    intro i hi
    -- the year stands after the comma
    have hyear := four_le_countP_of_instant? hi
    rw [List.countP_append, countP_eq_zero_of_isAllBlank hx] at hyear
    omega

end Prepress.Calendar
