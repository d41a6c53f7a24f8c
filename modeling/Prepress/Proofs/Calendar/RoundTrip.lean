/-
# Written dates are read back

A text is tried as a date of digits, in the international form and in the general forms, one after
the other.  The shapes of digits that one text has are of one form (`Shape.form_eq_of_fits`), so
that a date of figures between hyphens or slashes is read in its own form
(`numericDate?_of_writes`).  A date in a general form has no such shape and is not in the
international form, and the general forms that read one text are of one kind
(`Form.kind_eq_of_read?`), so that they read one date (`generalDate?_of_writes`).  Whatever form a
date is written in, it is read back (`instant?_written`).
-/
import Prepress.Proofs.Calendar.Writing
import Prepress.Proofs.Text.Newlines

namespace Prepress.Calendar

open Text

variable {d d' : Date} {f g : Form} {ws : List Text} {t : Text}

theorem Form.mem_written_of_mem_numeric :
    ∀ f ∈ Shape.numeric.map Prod.snd, f ∈ Form.written := by decide

theorem Form.mem_written_of_mem_general : ∀ f ∈ Form.general, f ∈ Form.written := by decide

theorem Form.mem_written_cases :
    ∀ f ∈ Form.written, f ∈ Shape.numeric.map Prod.snd ∨ f ∈ general := by decide

/-! ## Shapes of digits -/

namespace Shape

variable {s : Shape}

/-- A text of a shape is three runs of digits between marks. -/
theorem exists_of_fits (h : s.fits t = true) :
    ∃ a b c, splitOn s.mark t = [a, b, c] ∧ isDigitRun s.first a = true ∧
      isDigitRun s.second b = true ∧ isDigitRun s.third c = true := by
  rw [fits] at h
  split at h
  · next a b c hsplit =>
      rw [Bool.and_eq_true, Bool.and_eq_true] at h
      exact ⟨a, b, c, hsplit, h.1.1, h.1.2, h.2⟩
  · simp at h

theorem within_of_fits (h : s.fits t = true) :
    Within (fun c => isDigit c = true ∨ c = s.mark) t := by
  obtain ⟨a, b, c, hsplit, ha, hb, hc⟩ := exists_of_fits h
  have hrun : ∀ {bounds : Nat × Nat} {w : Text}, isDigitRun bounds w = true →
      Within (fun c => isDigit c = true ∨ c = s.mark) w := by
    intro bounds w hw e he
    rw [isDigitRun, Bool.and_eq_true] at hw
    exact Or.inl (List.all_eq_true.1 hw.2 e he)
  rw [← join_splitOn s.mark t, hsplit]
  refine within_join (within_cons.2 ⟨Or.inr rfl, within_nil⟩) ?_
  simp only [List.mem_cons, List.not_mem_nil, or_false]
  rintro w (rfl | rfl | rfl)
  · exact hrun ha
  · exact hrun hb
  · exact hrun hc

theorem fits_append {a b c : Text} (ha : s.mark ∉ a) (hb : s.mark ∉ b) (hc : s.mark ∉ c) :
    s.fits (a ++ s.mark :: (b ++ s.mark :: c)) =
      (isDigitRun s.first a && isDigitRun s.second b && isDigitRun s.third c) := by
  rw [fits, splitOn_line ha, splitOn_line hb, splitOn_last hc]

theorem isDigit_mark : ∀ x ∈ numeric, isDigit x.1.mark = false := by decide

theorem mark_of_mem_numeric : ∀ x ∈ numeric, x.1.mark = '-' ∨ x.1.mark = '/' := by decide

/-- Shapes of one mark are of one form, if a run of digits can be the first one of both. -/
theorem form_eq_of_mem_numeric : ∀ x ∈ numeric, ∀ y ∈ numeric, x.1.mark = y.1.mark →
    x.1.first.1 ≤ y.1.first.2 → y.1.first.1 ≤ x.1.first.2 → x.2 = y.2 := by decide

/-- The shapes that a text has are of one form. -/
theorem form_eq_of_fits {x y : Shape × Form} (hx : x ∈ numeric) (hy : y ∈ numeric)
    (hxt : x.1.fits t = true) (hyt : y.1.fits t = true) : x.2 = y.2 := by
  obtain ⟨a, b, c, hsplit, ha, -, -⟩ := exists_of_fits hxt
  obtain ⟨a', b', c', hsplit', ha', -, -⟩ := exists_of_fits hyt
  have hmark : x.1.mark = y.1.mark := by
    have hmem : x.1.mark ∈ t := by
      rw [← join_splitOn x.1.mark t, hsplit]
      simp [join]
    rcases within_of_fits hyt _ hmem with h | h
    · rw [isDigit_mark x hx] at h
      exact absurd h (by simp)
    · exact h
  rw [← hmark, hsplit] at hsplit'
  obtain rfl : a = a' := (List.cons.inj hsplit').1
  simp only [isDigitRun, Bool.and_eq_true, decide_eq_true_eq] at ha ha'
  exact form_eq_of_mem_numeric x hx y hy hmark (ha.1.1.trans ha'.1.2) (ha'.1.1.trans ha.1.2)

end Shape

/-- A date is found by any shape that the text has. -/
theorem numericDate?_of_fits {x : Shape × Form} (hx : x ∈ Shape.numeric)
    (hfits : x.1.fits t = true) (hread : x.2.read? t = some d) : numericDate? t = some d := by
  refine findSome?_eq_some hx ?_ ?_
  · dsimp only
    rw [if_pos hfits, hread]
  · intro y hy d' hd'
    dsimp only at hd'
    split at hd'
    · next hfits' =>
        rw [← Shape.form_eq_of_fits hx hy hfits hfits', hread] at hd'
        exact (Option.some.inj hd').symm
    · simp at hd'

/-- A text with another character than digits, hyphens and slashes has no shape of digits. -/
theorem numericDate?_eq_none {c : Char} (hc : c ∈ t) (hdigit : isDigit c = false)
    (hmark : c ≠ '-' ∧ c ≠ '/') : numericDate? t = none := by
  rw [numericDate?, List.findSome?_eq_none_iff]
  intro x hx
  refine if_neg ?_
  intro hfits
  rcases Shape.within_of_fits hfits c hc with h | h
  · rw [hdigit] at h
    exact Bool.false_ne_true h
  · rcases Shape.mark_of_mem_numeric x hx with hm | hm
    · exact hmark.1 (h.trans hm)
    · exact hmark.2 (h.trans hm)

/-- The lengths of what is written for a number. -/
def Piece.lengths : Piece → Nat × Nat
  | .year => (4, 4)
  | _ => (1, 2)

theorem Piece.isDigitRun_of_writes {p : Piece} {w : Text} (hp : p = .year ∨ p = .month ∨ p = .day)
    (hw : p.Writes d w) : isDigitRun p.lengths w = true := by
  have hrun : ∀ {bounds : Nat × Nat}, bounds.1 ≤ w.length → w.length ≤ bounds.2 →
      Within (isDigit · = true) w → isDigitRun bounds w = true := by
    intro bounds hleast hgreatest hdigits
    rw [isDigitRun, decide_eq_true hleast, decide_eq_true hgreatest, List.all_eq_true.2 hdigits]
    rfl
  have hfigures : ∀ {n : Nat}, IsFigures n w → n < 100 → isDigitRun (1, 2) w = true :=
    fun h hn => hrun (List.length_pos_iff.2 h.ne_nil) (h.length_le hn) h.within
  rcases hp with rfl | rfl | rfl
  · obtain rfl : w = zeroPadded 4 d.year := hw
    exact hrun (length_year d).ge (length_year d).le (within_year d)
  · exact hfigures hw (by have := d.month_le; omega)
  · exact hfigures hw (by have := day_le_thirtyOne d; omega)

/-- The forms of figures are three numbers with a mark between them, and their shapes allow for
what is written for the numbers. -/
theorem exists_numeric (hf : f ∈ Shape.numeric.map Prod.snd) :
    ∃ p q r m, f = [p, .mark m, q, .mark m, r] ∧
      (⟨m, p.lengths, q.lengths, r.lengths⟩, f) ∈ Shape.numeric ∧
      ∀ n ∈ [p, q, r], n = .year ∨ n = .month ∨ n = .day := by
  simp only [Shape.numeric, Form.yearMonthDay, Form.monthDayYear, List.map_cons, List.map_nil,
    List.mem_cons, List.not_mem_nil, or_false] at hf
  -- of two shapes of one form the later one allows for one digit
  rcases hf with rfl | rfl | rfl | rfl | rfl
  · exact ⟨.year, .month, .day, '-', rfl, .tail _ (.head _), by decide⟩
  · exact ⟨.year, .month, .day, '-', rfl, .tail _ (.head _), by decide⟩
  · exact ⟨.year, .month, .day, '/', rfl, .tail _ (.tail _ (.head _)), by decide⟩
  · exact ⟨.month, .day, .year, '/', rfl, List.mem_of_getLast? rfl, by decide⟩
  · exact ⟨.month, .day, .year, '/', rfl, List.mem_of_getLast? rfl, by decide⟩

/-- **A date of figures between hyphens or slashes is found by its shape.** -/
theorem numericDate?_of_writes (hf : f ∈ Shape.numeric.map Prod.snd)
    (hws : List.Forall₂ (Piece.Writes d) f ws) : numericDate? ws.flatten = some d := by
  obtain ⟨p, q, r, m, rfl, hmem, hnumbers⟩ := exists_numeric hf
  have hread := Form.read?_of_writes (Form.mem_written_of_mem_numeric _ hf) hws
  refine numericDate?_of_fits hmem ?_ hread
  obtain ⟨a, ws₁, ha, h₁, rfl⟩ := List.forall₂_cons_left_iff.1 hws
  obtain ⟨x, ws₂, hx, h₂, rfl⟩ := List.forall₂_cons_left_iff.1 h₁
  obtain ⟨b, ws₃, hb, h₃, rfl⟩ := List.forall₂_cons_left_iff.1 h₂
  obtain ⟨y, ws₄, hy, h₄, rfl⟩ := List.forall₂_cons_left_iff.1 h₃
  obtain ⟨c, ws₅, hc, h₅, rfl⟩ := List.forall₂_cons_left_iff.1 h₄
  obtain rfl := List.forall₂_nil_left_iff.1 h₅
  obtain rfl : x = [m] := hx
  obtain rfl : y = [m] := hy
  have hmark : isDigit m = false := Shape.isDigit_mark _ hmem
  have hrun : ∀ {n : Piece} {w : Text}, n ∈ [p, q, r] → n.Writes d w →
      m ∉ w ∧ isDigitRun n.lengths w = true := by
    intro n w hn hw
    have h := Piece.isDigitRun_of_writes (hnumbers n hn) hw
    refine ⟨?_, h⟩
    intro hm
    rw [isDigitRun, Bool.and_eq_true] at h
    rw [List.all_eq_true.1 h.2 m hm] at hmark
    exact Bool.noConfusion hmark
  obtain ⟨hma, ha⟩ := hrun (by simp) ha
  obtain ⟨hmb, hb⟩ := hrun (by simp) hb
  obtain ⟨hmc, hc⟩ := hrun (by simp) hc
  have hflatten : [a, [m], b, [m], c].flatten = a ++ m :: (b ++ m :: c) := by simp
  rw [hflatten, Shape.fits_append hma hmb hmc, ha, hb, hc]
  rfl

/-! ## The general forms -/

/-- The general forms are told apart by their signs and their first pieces, the length of the
month's name left out of account. -/
theorem Form.kind_eq_of_mem_general : ∀ f ∈ Form.general, ∀ g ∈ Form.general,
    (∀ c ∈ [',', '-', '.'], Piece.mark c ∈ f ↔ Piece.mark c ∈ g) →
      (f.head?.map Piece.kind = some .monthName ↔ g.head?.map Piece.kind = some .monthName) →
        (Piece.mark '.' ∈ f → (f.head? = some .year ↔ g.head? = some .year)) →
          f.map Piece.kind = g.map Piece.kind := by
  decide +kernel

/-- A text in a general form begins with a letter if the form begins with a name. -/
theorem Form.head?_eq_monthName_iff (hf : f ∈ general) (hws : List.Forall₂ Piece.Spells f ws) :
    f.head?.map Piece.kind = some .monthName ↔
      ∃ c, ws.flatten.head? = some c ∧ c.isAlpha = true := by
  have hshape : ∀ f ∈ general, ∃ p rest, f = p :: rest ∧
      (p = .monthName ∨ p = .monthAbbreviation ∨ p = .day ∨ p = .year) := by
    simp [general, yearMonthDay]
  obtain ⟨p, rest, rfl, hp⟩ := hshape f hf
  obtain ⟨w, vs, hw, -, rfl⟩ := List.forall₂_cons_left_iff.1 hws
  have hfirst : ∀ {P : Char → Prop}, w ≠ [] → Within P w →
      ∃ c, (w :: vs).flatten.head? = some c ∧ P c := by
    intro P hne hall
    obtain ⟨c, t, rfl⟩ := List.exists_cons_of_ne_nil hne
    exact ⟨c, rfl, hall c (by simp)⟩
  have hnumber : w ≠ [] → Within (fun c => isDigit c = true ∨ c = ' ') w →
      ¬ ∃ c, (w :: vs).flatten.head? = some c ∧ c.isAlpha = true := by
    rintro hne hall ⟨c, hc, halpha⟩
    obtain ⟨e, he, hdigit⟩ := hfirst hne hall
    obtain rfl : c = e := Option.some.inj (hc.symm.trans he)
    rcases hdigit with h | rfl
    · rw [isDigit_of_isAlpha halpha] at h
      exact Bool.false_ne_true h
    · exact absurd halpha (by decide)
  rcases hp with rfl | rfl | rfl | rfl
  · exact iff_of_true rfl (hfirst hw.1 hw.2)
  · exact iff_of_true rfl (hfirst hw.1 hw.2)
  · exact iff_of_false (by simp [Piece.kind]) (hnumber hw.1 hw.2.2)
  · exact iff_of_false (by simp [Piece.kind])
      (hnumber (List.ne_nil_of_length_pos (by rw [hw.1]; decide)) (hw.2.imp fun _ => Or.inl))

/-- Of the general forms with points, one begins with four digits. -/
theorem Form.head?_eq_year_iff (hf : f ∈ general) (hpoint : Piece.mark '.' ∈ f)
    (hws : List.Forall₂ Piece.Spells f ws) :
    f.head? = some .year ↔ Within (isDigit · = true) (ws.flatten.take 4) := by
  have hforms : ∀ f ∈ general, Piece.mark '.' ∈ f →
      f = [.day, .mark '.', .month, .mark '.', .year] ∨ f = yearMonthDay '.' := by decide
  rcases hforms f hf hpoint with rfl | rfl
  · obtain ⟨w, ws₁, hw, h₁, rfl⟩ := List.forall₂_cons_left_iff.1 hws
    obtain ⟨p, ws₂, hp, -, rfl⟩ := List.forall₂_cons_left_iff.1 h₁
    obtain rfl : p = ['.'] := hp
    refine iff_of_false (by simp) ?_
    -- the point comes after two digits at most
    intro hdigits
    have hlength : w.length ≤ 2 := hw.2.1
    have hmem : '.' ∈ (w :: ['.'] :: ws₂).flatten.take 4 := by
      rw [List.flatten_cons, List.flatten_cons, List.take_append]
      refine List.mem_append_right _ ?_
      rw [List.singleton_append, List.take_cons (by omega)]
      exact List.mem_cons_self
    exact absurd (hdigits '.' hmem) (by decide)
  · obtain ⟨w, ws₁, hw, -, rfl⟩ := List.forall₂_cons_left_iff.1 hws
    refine iff_of_true rfl ?_
    rw [List.flatten_cons, List.take_left' hw.1]
    exact hw.2

/-- The general forms that read one text are of one kind. -/
theorem Form.kind_eq_of_read? (hf : f ∈ general) (hg : g ∈ general)
    (hd : f.read? t = some d) (hd' : g.read? t = some d') :
    f.map Piece.kind = g.map Piece.kind := by
  obtain ⟨ws, ht, hws⟩ := exists_of_read? hd
  obtain ⟨vs, ht', hvs⟩ := exists_of_read? hd'
  have hmarks : ∀ {c : Char}, IsSign c → (Piece.mark c ∈ f ↔ Piece.mark c ∈ g) := by
    intro c hc
    rw [← mem_flatten_iff hws hc, ← mem_flatten_iff hvs hc, ← ht, ← ht']
  refine kind_eq_of_mem_general f hf g hg ?_ ?_ ?_
  · have hsigns : ∀ c ∈ [',', '-', '.'], IsSign c := by decide
    exact fun c hc => hmarks (hsigns c hc)
  · rw [head?_eq_monthName_iff hf hws, head?_eq_monthName_iff hg hvs, ← ht, ← ht']
  · intro hpoint
    rw [head?_eq_year_iff hf hpoint hws, head?_eq_year_iff hg ((hmarks (by decide)).1 hpoint) hvs,
      ← ht, ← ht']

/-- **A date in a general form is found.** -/
theorem generalDate?_of_writes (hf : f ∈ Form.general)
    (hws : List.Forall₂ (Piece.Writes d) f ws) : generalDate? ws.flatten = some d := by
  have hread := Form.read?_of_writes (Form.mem_written_of_mem_general f hf) hws
  refine findSome?_eq_some hf hread ?_
  intro g hg d' hd'
  have hkind := Form.kind_eq_of_read? hf hg hread hd'
  exact Form.eq_of_read? (Form.mem_written_of_mem_general g hg) (Form.tells_of_kind hkind hws) hd'

/-! ## The order of the attempts -/

/-- What has no digit among its first four characters, or neither a hyphen nor a `W` nor a digit
after them, is not in the international form. -/
theorem isoInstant?_eq_none {a b : Text} {c : Char} (hc : isDigit c = false)
    (h : a.length < 4 ∨ a.length = 4 ∧ c ≠ '-' ∧ c ≠ 'W') : Iso.instant? (a ++ c :: b) = none := by
  rw [Option.eq_none_iff_forall_ne_some]
  intro i hi
  obtain ⟨y, e, u, ht, hlength, hdigits, he⟩ := exists_of_isoInstant? hi
  have hget : (a ++ c :: b)[a.length]? = some c := by simp
  rw [ht] at hget
  rcases h with hlt | ⟨heq, hne⟩
  · rw [List.getElem?_append_left (hlength ▸ hlt)] at hget
    rw [isDigit_of_isDigit (hdigits c (List.mem_of_getElem? hget))] at hc
    exact Bool.noConfusion hc
  · rw [List.getElem?_append_right (by omega), heq, hlength] at hget
    obtain rfl : e = c := Option.some.inj hget
    rcases he with h | h | h
    · exact hne.1 h
    · exact hne.2 h
    · rw [isDigit_of_isDigit h] at hc
      exact Bool.noConfusion hc

/-- What shows in the text of a piece shows in the text of a form with the piece. -/
theorem Form.exists_mem {R : Piece → Text → Prop} {P : Char → Prop} {p : Piece}
    (hws : List.Forall₂ R f ws) (hp : p ∈ f) (hR : ∀ w, R p w → ∃ c ∈ w, P c) :
    ∃ c ∈ ws.flatten, P c := by
  induction hws with
  | nil => simp at hp
  | @cons q w f ws hw _ ih =>
      rw [List.flatten_cons]
      rcases List.mem_cons.1 hp with rfl | hp
      · obtain ⟨c, hmem, hc⟩ := hR w hw
        exact ⟨c, List.mem_append_left _ hmem, hc⟩
      · obtain ⟨c, hmem, hc⟩ := ih hp
        exact ⟨c, List.mem_append_right w hmem, hc⟩

/-- Every piece shows in what is written. -/
theorem Form.exists_begins {p : Piece} (hws : List.Forall₂ (Piece.Writes d) f ws) (hp : p ∈ f) :
    ∃ c ∈ ws.flatten, p.Begins c := by
  refine exists_mem hws hp ?_
  intro w hw
  obtain ⟨c, t, rfl, hc⟩ := hw.tells.exists_cons
  exact ⟨c, List.mem_cons_self, hc⟩

/-- A date in a general form is not of digits. -/
theorem numericDate?_of_general (hf : f ∈ Form.general)
    (hws : List.Forall₂ (Piece.Writes d) f ws) : numericDate? ws.flatten = none := by
  have hother : ∀ f ∈ Form.general,
      ∃ p ∈ f, p = .mark '.' ∨ p = .monthName ∨ p = .monthAbbreviation := by decide
  obtain ⟨p, hp, hkind⟩ := hother f hf
  obtain ⟨c, hmem, hc⟩ := Form.exists_begins hws hp
  have hletter : c.isAlpha = true → numericDate? ws.flatten = none := by
    intro halpha
    refine numericDate?_eq_none hmem (isDigit_of_isAlpha halpha) ⟨?_, ?_⟩ <;> rintro rfl <;>
      exact absurd halpha (by decide)
  rcases hkind with rfl | rfl | rfl
  · obtain rfl : c = '.' := hc
    exact numericDate?_eq_none hmem (by decide) (by decide)
  · exact hletter hc
  · exact hletter hc

/-- A date in a general form is not in the international form. -/
theorem isoInstant?_of_general (hf : f ∈ Form.general)
    (hws : List.Forall₂ (Piece.Writes d) f ws) : Iso.instant? ws.flatten = none := by
  have hshape : ∀ f ∈ Form.general, ∃ p q rest, f = p :: q :: rest ∧
      (p = .monthName ∨ p = .monthAbbreviation ∨
        p = .day ∧ (q = .gap ∨ q = .mark '-' ∨ q = .mark '.') ∨ p = .year ∧ q = .mark '.') := by
    simp [Form.general, Form.yearMonthDay]
  obtain ⟨p, q, rest, rfl, hshape⟩ := hshape f hf
  obtain ⟨w, ws₁, hw, h₁, rfl⟩ := List.forall₂_cons_left_iff.1 hws
  obtain ⟨v, ws₂, hv, -, rfl⟩ := List.forall₂_cons_left_iff.1 h₁
  obtain ⟨c, t, rfl, hc⟩ := hw.tells.exists_cons
  obtain ⟨e, u, rfl, he⟩ := hv.tells.exists_cons
  show Iso.instant? ((c :: t) ++ e :: (u ++ ws₂.flatten)) = none
  rcases hshape with rfl | rfl | ⟨rfl, hq⟩ | ⟨rfl, rfl⟩
  · exact isoInstant?_eq_none (a := []) (isDigit_of_isAlpha hc) (Or.inl (by decide))
  · exact isoInstant?_eq_none (a := []) (isDigit_of_isAlpha hc) (Or.inl (by decide))
  · have hdigit : isDigit e = false := by
      rcases hq with rfl | rfl | rfl
      · exact isDigit_of_isBlank he
      · obtain rfl : e = '-' := he
        decide
      · obtain rfl : e = '.' := he
        decide
    have hlength := IsFigures.length_le hw (Nat.lt_of_le_of_lt (day_le_thirtyOne d) (by decide))
    exact isoInstant?_eq_none hdigit (Or.inl (by omega))
  · obtain rfl : e = '.' := he
    have hyear : c :: t = zeroPadded 4 d.year := hw
    refine isoInstant?_eq_none (by decide) (Or.inr ⟨?_, by decide⟩)
    rw [hyear, length_year]

/-- What is written in a form ends as its last piece does. -/
theorem Form.getLast?_of_writes {p : Piece} {P : Char → Prop}
    (hws : List.Forall₂ (Piece.Writes d) f ws) (hp : f.getLast? = some p)
    (hP : ∀ w, p.Writes d w → Within P w) {c : Char} (hc : ws.flatten.getLast? = some c) : P c := by
  induction hws with
  | nil => simp at hp
  | @cons q w f ws hw hws ih =>
      rw [List.flatten_cons, List.getLast?_append] at hc
      cases f with
      | nil =>
          obtain rfl := List.forall₂_nil_left_iff.1 hws
          obtain rfl : q = p := Option.some.inj hp
          exact hP w hw c (List.mem_of_getLast? hc)
      | cons q' f =>
          -- something is written for the rest of the form
          obtain ⟨e, hmem, -⟩ := exists_begins hws (List.mem_cons_self (a := q'))
          rw [List.getLast?_eq_getLast_of_ne_nil (List.ne_nil_of_mem hmem)] at hc ih
          exact ih hp hc

/-- A written date has no blanks around it. -/
theorem trim_of_writes (hf : f ∈ Form.written) (hws : List.Forall₂ (Piece.Writes d) f ws) :
    trim ws.flatten = ws.flatten := by
  have hhead : ∀ f ∈ Form.written, ∀ q ∈ f.head?, Piece.gap.mayPrecede q = true := by decide
  have hlast : ∀ f ∈ Form.written, f.getLast? = some .year ∨ f.getLast? = some .day := by decide
  refine trim_eq_self_iff.2 ⟨?_, ?_⟩
  · exact Piece.endsBefore_flatten (p := .gap) (hhead f hf)
      (hws.imp fun _ _ => Piece.Writes.tells)
  · intro c hc
    rw [← Bool.not_eq_true]
    intro hblank
    have hdigit : isDigit c = true := by
      rcases hlast f hf with h | h
      · have hyear : ∀ w, Piece.Writes d .year w → Within (isDigit · = true) w :=
          fun _ hw => hw ▸ within_year d
        exact Form.getLast?_of_writes hws h hyear hc
      · exact Form.getLast?_of_writes hws h (fun _ hw => hw.within) hc
    rw [isDigit_of_isBlank hblank] at hdigit
    exact Bool.false_ne_true hdigit

/-- What is found as a date of digits is the beginning of the day. -/
theorem instant?_of_numericDate? (htrim : trim t = t) (h : numericDate? t = some d) :
    instant? t = some (.midnight d) := by
  rw [instant?, htrim, h]
  rfl

/-- **Written dates are read back.**  Whatever form a date is written in, with figures bare or
filled up, names in any letter case and any blanks around it, it is read as the beginning of that
day. -/
theorem instant?_written {a b : Text} (hf : f ∈ Form.written)
    (hws : List.Forall₂ (Piece.Writes d) f ws) (ha : isAllBlank a = true)
    (hb : isAllBlank b = true) :
    instant? (a ++ (ws.flatten ++ b)) = some (.midnight d) := by
  have htrim := trim_of_writes hf hws
  rw [← instant?_trim, trim_append_left ha, trim_append_right hb, htrim]
  rcases Form.mem_written_cases f hf with hnumeric | hgeneral
  · exact instant?_of_numericDate? htrim (numericDate?_of_writes hnumeric hws)
  · rw [instant?, htrim, numericDate?_of_general hgeneral hws, isoInstant?_of_general hgeneral hws,
      generalDate?_of_writes hgeneral hws]
    rfl

/-- The seventh of March in the year 2024. -/
def seventhOfMarch : Date :=
  ⟨2024, 3, 7, by decide, by decide, by decide, by decide, by decide, by decide⟩

/-- The date with its name in mixed letters, between a tabulator and a line feed. -/
theorem instant?_written_seventhOfMarch :
    [.monthName, .gap, .day, .mark ',', .gap, .year] ∈ Form.written ∧
      instant? "\tmaRCH  7, 2024\n".toList = some (.midnight seventhOfMarch) := by
  have hform : [.monthName, .gap, .day, .mark ',', .gap, .year] ∈ Form.written := by decide
  have hname : sameLetters (monthNames.getD 2 []) "maRCH".toList = true := by decide +kernel
  have hws : List.Forall₂ (Piece.Writes seventhOfMarch)
      [.monthName, .gap, .day, .mark ',', .gap, .year]
      ["maRCH".toList, "  ".toList, ['7'], [','], [' '], "2024".toList] :=
    .cons hname (.cons ⟨by decide, rfl⟩ (.cons (Or.inl rfl) (.cons rfl
      (.cons ⟨by decide, rfl⟩ (.cons rfl .nil)))))
  exact ⟨hform, instant?_written (a := ['\t']) (b := ['\n']) hform hws rfl rfl⟩

/-! ## Dates with hyphens -/

theorem within_hyphenated_digits (d : Date) :
    Within (fun c => isDigit c = true ∨ c = '-') (hyphenated d) := by
  have hdigits : ∀ {w : Text}, Within (·.isDigit = true) w →
      Within (fun c => isDigit c = true ∨ c = '-') w :=
    fun h => h.imp fun _ hc => Or.inl (isDigit_of_isDigit hc)
  have hmark : Within (fun c => isDigit c = true ∨ c = '-') ['-'] := by
    simp
  exact ((((hdigits (within_isDigit_ofNat _)).append hmark).append
    (hdigits (within_isDigit_zeroPadded _ _))).append hmark).append
      (hdigits (within_isDigit_zeroPadded _ _))

/-- A date with hyphens has no blanks around it. -/
theorem trim_hyphenated (d : Date) : trim (hyphenated d) = hyphenated d := by
  have hblank : ∀ c ∈ hyphenated d, isBlank c = false := by
    intro c hc
    rw [← Bool.not_eq_true]
    intro hb
    rcases within_hyphenated_digits d c hc with h | rfl
    · rw [isDigit_of_isBlank hb] at h
      exact Bool.false_ne_true h
    · exact absurd hb (by decide)
  exact trim_eq_self_iff.2 ⟨fun c hc => hblank c (List.mem_of_head? hc),
    fun c hc => hblank c (List.mem_of_getLast? hc)⟩

/-- The general forms with a hyphen have letters. -/
theorem generalDate?_of_hyphen (hmem : '-' ∈ t)
    (ht : Within (fun c => isDigit c = true ∨ c = '-') t) : generalDate? t = none := by
  rw [Option.eq_none_iff_forall_ne_some]
  intro d hd
  obtain ⟨f, hf, ws, rfl, hws⟩ := exists_of_generalDate? hd
  have hname : ∀ f ∈ Form.general, Piece.mark '-' ∈ f → Piece.monthAbbreviation ∈ f := by decide
  have hmonth := hname f hf ((mem_flatten_iff hws (by decide)).1 hmem)
  obtain ⟨c, hc, halpha⟩ : ∃ c ∈ ws.flatten, c.isAlpha = true := by
    refine Form.exists_mem hws hmonth ?_
    rintro w ⟨hne, hletters⟩
    obtain ⟨c, hc⟩ := List.exists_mem_of_ne_nil w hne
    exact ⟨c, hc, hletters c hc⟩
  rcases ht c hc with h | rfl
  · rw [isDigit_of_isAlpha halpha] at h
    exact Bool.false_ne_true h
  · exact absurd halpha (by decide)

/-- A year of less than four digits is not filled up, and the date is not read. -/
theorem instant?_hyphenated_of_lt (h : d.year < 1000) : instant? (hyphenated d) = none := by
  have hlength : (ofNat d.year).length ≤ 3 :=
    (Nat.length_toDigits_le_iff (by decide) (by decide)).2 h
  have htext : hyphenated d
      = ofNat d.year ++ '-' :: (zeroPadded 2 d.month ++ '-' :: zeroPadded 2 d.day) := by
    simp [hyphenated]
  have hmem : '-' ∈ hyphenated d := by
    rw [htext]
    simp
  have hnumeric : numericDate? (hyphenated d) = none := by
    have hfour : ∀ x ∈ Shape.numeric, '-' = x.1.mark → x.1.first.1 = 4 := by decide
    have hyear : '-' ∉ ofNat d.year := (within_isDigit_ofNat d.year).not_mem (by decide)
    rw [numericDate?, List.findSome?_eq_none_iff]
    intro x hx
    refine if_neg ?_
    intro hfits
    rcases Shape.within_of_fits hfits '-' hmem with h | hmark
    · exact absurd h (by decide)
    · -- the first run of digits is the year
      obtain ⟨a, b, c, hsplit, ha, -, -⟩ := Shape.exists_of_fits hfits
      rw [← hmark, htext, splitOn_line hyear] at hsplit
      obtain rfl : ofNat d.year = a := (List.cons.inj hsplit).1
      rw [isDigitRun, Bool.and_eq_true, Bool.and_eq_true, decide_eq_true_eq, hfour x hx hmark] at ha
      exact absurd ha.1.1 (by omega)
  have hiso : Iso.instant? (hyphenated d) = none := by
    rw [htext]
    exact isoInstant?_eq_none (by decide) (Or.inl (Nat.lt_succ_of_le hlength))
  rw [instant?, trim_hyphenated, hnumeric, hiso,
    generalDate?_of_hyphen hmem (within_hyphenated_digits d)]
  rfl

theorem instant?_hyphenated_of_le (h : 1000 ≤ d.year) :
    instant? (hyphenated d) = some (.midnight d) := by
  have hyear : ofNat d.year = zeroPadded 4 d.year := by
    refine (zeroPadded_of_le ?_).symm
    rw [← Nat.not_lt, Nat.lt_succ_iff, ofNat, Nat.length_toDigits_le_iff (by decide) (by decide)]
    exact Nat.not_lt.2 h
  have htext : hyphenated d = [zeroPadded 4 d.year, ['-'], zeroPadded 2 d.month, ['-'],
      zeroPadded 2 d.day].flatten := by
    rw [hyphenated, hyear]
    simp
  refine instant?_of_numericDate? (trim_hyphenated d) ?_
  rw [htext]
  refine numericDate?_of_writes (f := Form.yearMonthDay '-') (by decide) ?_
  exact .cons rfl (.cons rfl (.cons (Or.inr rfl) (.cons rfl (.cons (Or.inr rfl) .nil))))

/-- **A date with hyphens is read back if its year has four digits.**  A smaller year is not filled
up with zeros, and the text is not accepted then. -/
theorem instant?_hyphenated (d : Date) :
    instant? (hyphenated d) = if 1000 ≤ d.year then some (.midnight d) else none := by
  split
  · next h => exact instant?_hyphenated_of_le h
  · next h => exact instant?_hyphenated_of_lt (Nat.lt_of_not_le h)

end Prepress.Calendar
