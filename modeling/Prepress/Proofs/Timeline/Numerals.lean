/-
# The first numeral of a text

A numeral begins at a digit, or at a point with a digit directly behind it.  It is the longest run
of digits there, with the point and the longest run of digits behind it if the digits are followed
so (`IsNumeralAt`).

* `readsFirst_iff` : the numeral that is read from a text is the one that begins first;
* `firstNumeral?_trim`, `firstNumeral?_lower` : blanks around a text and letter case do not count;
* `searchNumeral_eq` : a pattern of digits, a point that may be missing, and digits again, that is
  tried with as many digits as possible first, finds the same numeral.
-/
import Prepress.Proofs.Text.Case
import Prepress.Proofs.Text.Pattern
import Prepress.Timeline.Duration

namespace Prepress.Timeline

open Text
open scoped List

/-! ## Numerals -/

/-- A digit comes first. -/
def StartsDigit (t : Text) : Prop := ∃ d s, t = d :: s ∧ d.isDigit = true

/-- A point with a digit directly behind it comes first. -/
def StartsFraction (t : Text) : Prop := ∃ s, t = '.' :: s ∧ StartsDigit s

/-- A numeral comes first. -/
def StartsNumeral (t : Text) : Prop := StartsDigit t ∨ StartsFraction t

/-- A text is a run of digits and a rest that does not go on with one. -/
structure IsLongestRun (t run rest : Text) : Prop where
  eq : t = run ++ rest
  digits : ∀ c ∈ run, c.isDigit = true
  ends : ¬ StartsDigit rest

/-- The digits before and after the point of the numeral that comes first in a text. -/
def IsNumeralAt (t whole fraction : Text) : Prop :=
  ∃ rest, IsLongestRun t whole rest ∧
    ((∃ s after, rest = '.' :: s ∧ StartsDigit s ∧ IsLongestRun s fraction after) ∨
      (¬ StartsFraction rest ∧ fraction = []))

/-- What is read for the first numeral of a text: its digits, if a numeral begins somewhere, and
nothing if none does. -/
def ReadsFirst (t : Text) : Option (Text × Text) → Prop
  | some (whole, fraction) => ∃ before r, t = before ++ r ∧ Nowhere StartsNumeral before r ∧
      StartsNumeral r ∧ IsNumeralAt r whole fraction
  | none => Nowhere StartsNumeral t []

/-! ## Runs of digits -/

section Runs

variable {t run rest : Text} {c : Char}

theorem startsDigit_cons : StartsDigit (c :: t) ↔ c.isDigit = true := by
  constructor
  · rintro ⟨d, s, h, hd⟩
    rw [List.cons.injEq] at h
    rw [h.1, hd]
  · exact fun h => ⟨c, t, rfl, h⟩

theorem not_startsDigit_nil : ¬ StartsDigit [] := by
  rintro ⟨d, s, h, -⟩
  cases h

theorem startsDigit_iff : StartsDigit t ↔ t.takeWhile Char.isDigit ≠ [] := by
  cases t with
  | nil => exact iff_of_false not_startsDigit_nil fun h => h rfl
  | cons c t =>
      rw [startsDigit_cons, List.takeWhile_cons]
      split <;> simp [*]

/-- The longest run is the one that is taken. -/
theorem isLongestRun_iff :
    IsLongestRun t run rest ↔ run = t.takeWhile Char.isDigit ∧ rest = t.dropWhile Char.isDigit := by
  constructor
  · rintro ⟨rfl, hdigits, hends⟩
    have hnone : rest.takeWhile Char.isDigit = [] := by
      by_contra h
      exact hends (startsDigit_iff.2 h)
    have hall : rest.dropWhile Char.isDigit = rest := by
      have h := List.takeWhile_append_dropWhile (p := Char.isDigit) (l := rest)
      rwa [hnone, List.nil_append] at h
    rw [List.takeWhile_append_of_pos hdigits, List.dropWhile_append_of_pos hdigits, hnone, hall,
      List.append_nil]
    exact ⟨rfl, rfl⟩
  · rintro ⟨rfl, rfl⟩
    refine ⟨(List.takeWhile_append_dropWhile).symm, fun c hc => List.mem_takeWhile_imp hc, ?_⟩
    rintro ⟨d, s, h, hd⟩
    have hhead := List.head?_dropWhile_not Char.isDigit t
    rw [h] at hhead
    simp [hd] at hhead

end Runs

/-! ## Reading -/

/-- The digits behind a point that comes first in a text. -/
def fractionAt : Text → Text
  | '.' :: t => t.takeWhile Char.isDigit
  | _ => []

/-- The digits before and after the point of what comes first in a text. -/
def numeralAt (t : Text) : Text × Text :=
  (t.takeWhile Char.isDigit, fractionAt (t.dropWhile Char.isDigit))

section Reading

variable {t whole fraction : Text} {c : Char}

theorem fractionAt_eq_nil (h : ∀ s, t ≠ '.' :: s) : fractionAt t = [] := by
  unfold fractionAt
  split
  · next s => exact absurd rfl (h s)
  · rfl

/-- What stands behind a point is a fraction if digits stand there. -/
theorem fraction_cases (rest : Text) :
    StartsFraction rest ∨ (¬ StartsFraction rest ∧ fractionAt rest = []) := by
  by_cases h : StartsFraction rest
  · exact Or.inl h
  · refine Or.inr ⟨h, ?_⟩
    unfold fractionAt
    split
    · next s =>
        by_contra hs
        exact h ⟨s, rfl, startsDigit_iff.2 hs⟩
    · rfl

theorem isNumeralAt_iff : IsNumeralAt t whole fraction ↔ numeralAt t = (whole, fraction) := by
  unfold IsNumeralAt numeralAt
  rw [Prod.mk.injEq]
  constructor
  · rintro ⟨rest, hrun, h⟩
    obtain ⟨rfl, rfl⟩ := isLongestRun_iff.1 hrun
    refine ⟨rfl, ?_⟩
    rcases h with ⟨s, after, hs, -, hfraction⟩ | ⟨hnone, rfl⟩
    · rw [hs, (isLongestRun_iff.1 hfraction).1]
      rfl
    · rcases fraction_cases (t.dropWhile Char.isDigit) with h | h
      · exact absurd h hnone
      · exact h.2
  · rintro ⟨rfl, rfl⟩
    refine ⟨_, isLongestRun_iff.2 ⟨rfl, rfl⟩, ?_⟩
    rcases fraction_cases (t.dropWhile Char.isDigit) with ⟨s, hs, hdigit⟩ | h
    · rw [hs]
      exact Or.inl ⟨s, _, rfl, hdigit, isLongestRun_iff.2 ⟨rfl, rfl⟩⟩
    · exact Or.inr h

theorem startsFraction_cons :
    StartsFraction (c :: t) ↔ c = '.' ∧ t.takeWhile Char.isDigit ≠ [] := by
  rw [← startsDigit_iff]
  constructor
  · rintro ⟨s, h, hs⟩
    rw [List.cons.injEq] at h
    exact ⟨h.1, h.2 ▸ hs⟩
  · rintro ⟨rfl, h⟩
    exact ⟨t, rfl, h⟩

/-- A numeral is read where one begins. -/
theorem firstNumeral?_of_startsNumeral (h : StartsNumeral t) :
    firstNumeral? t = some (numeralAt t) := by
  cases t with
  | nil =>
      rcases h with h | ⟨s, h, -⟩
      · exact absurd h not_startsDigit_nil
      · cases h
  | cons c t =>
      rw [StartsNumeral, startsDigit_cons, startsFraction_cons] at h
      rw [firstNumeral?, numeralAt]
      by_cases hc : c.isDigit = true
      · rw [if_pos hc, List.takeWhile_cons_of_pos hc, List.dropWhile_cons_of_pos hc]
        split
        · next h => rw [h, fractionAt]
        · next h => rw [fractionAt_eq_nil fun s hs => h s hs]
      · have hpoint := h.resolve_left hc
        have hdot : ¬ Char.isDigit '.' = true := by decide
        rw [if_neg hc, if_pos hpoint, hpoint.1, List.takeWhile_cons_of_neg hdot,
          List.dropWhile_cons_of_neg hdot, fractionAt]

/-- Where none begins, the next character is looked at. -/
theorem firstNumeral?_cons (h : ¬ StartsNumeral (c :: t)) :
    firstNumeral? (c :: t) = firstNumeral? t := by
  rw [StartsNumeral, startsDigit_cons, startsFraction_cons, not_or] at h
  rw [firstNumeral?, if_neg h.1, if_neg h.2]

theorem not_startsNumeral_nil : ¬ StartsNumeral [] := by
  rintro (h | ⟨s, h, -⟩)
  · exact not_startsDigit_nil h
  · cases h

/-- A numeral that comes first is read, and no other one. -/
theorem readsFirst_of_startsNumeral {numeral : Option (Text × Text)} (hfirst : StartsNumeral t) :
    ReadsFirst t numeral ↔ some (numeralAt t) = numeral := by
  constructor
  · intro h
    match numeral with
    | none =>
        cases t with
        | nil => exact absurd hfirst not_startsNumeral_nil
        | cons c t =>
            have hnone := (nowhere_cons.1 h).1
            rw [List.append_nil] at hnone
            exact absurd hfirst hnone
    | some (whole, fraction) =>
        obtain ⟨before, r, rfl, hbefore, -, hnumeral⟩ := h
        cases before with
        | nil => rw [List.nil_append, isNumeralAt_iff.1 hnumeral]
        | cons d before =>
            -- nothing may stand before the numeral that comes first
            exact absurd hfirst (nowhere_cons.1 hbefore).1
  · rintro rfl
    exact ⟨[], t, rfl, nowhere_nil _ _, hfirst, isNumeralAt_iff.2 rfl⟩

/-- Where no numeral comes first, the rest of the text is read. -/
theorem readsFirst_cons {numeral : Option (Text × Text)} (hfirst : ¬ StartsNumeral (c :: t)) :
    ReadsFirst (c :: t) numeral ↔ ReadsFirst t numeral := by
  match numeral with
  | none =>
      show Nowhere StartsNumeral (c :: t) [] ↔ Nowhere StartsNumeral t []
      rw [nowhere_cons, List.append_nil]
      exact and_iff_right hfirst
  | some (whole, fraction) =>
      constructor
      · rintro ⟨before, r, he, hbefore, hr, hnumeral⟩
        cases before with
        | nil =>
            rw [he] at hfirst
            exact absurd hr hfirst
        | cons d before =>
            rw [List.cons_append, List.cons.injEq] at he
            exact ⟨before, r, he.2, (nowhere_cons.1 hbefore).2, hr, hnumeral⟩
      · rintro ⟨before, r, rfl, hbefore, hr, hnumeral⟩
        exact ⟨c :: before, r, rfl, nowhere_cons.2 ⟨hfirst, hbefore⟩, hr, hnumeral⟩

/-- The numeral that is read from a text is the one that begins first. -/
theorem readsFirst_iff {numeral : Option (Text × Text)} :
    ReadsFirst t numeral ↔ firstNumeral? t = numeral := by
  induction t with
  | nil =>
      constructor
      · intro h
        match numeral with
        | none => rfl
        | some (whole, fraction) =>
            obtain ⟨before, r, he, -, hr, -⟩ := h
            rw [(List.append_eq_nil_iff.1 he.symm).2] at hr
            exact absurd hr not_startsNumeral_nil
      · rintro rfl
        exact nowhere_nil _ _
  | cons c t ih =>
      by_cases hfirst : StartsNumeral (c :: t)
      · rw [firstNumeral?_of_startsNumeral hfirst, readsFirst_of_startsNumeral hfirst]
      · rw [firstNumeral?_cons hfirst, ← ih, readsFirst_cons hfirst]

end Reading

/-! ## What does not count -/

/-- Whether a character is a digit or a point. -/
def isNumeric (c : Char) : Bool := c.isDigit || c == '.'

/-- Two texts have the same digits and points, next to each other in the one where they are next to
each other in the other.  The first may have more of other characters. -/
inductive SameNumerals : Text → Text → Prop
  | done {b : Text} (hb : Within (isNumeric · = false) b) : SameNumerals b []
  | numeric {c : Char} {s t : Text} (hc : isNumeric c = true) (h : SameNumerals s t) :
      SameNumerals (c :: s) (c :: t)
  | other {c : Char} {a s t : Text} (hc : isNumeric c = false) (ha : a ≠ [])
      (hw : Within (isNumeric · = false) a) (h : SameNumerals s t) :
      SameNumerals (a ++ s) (c :: t)

section Same

variable {s t a : Text} {c : Char}

theorem not_isDigit_of_not_isNumeric (h : isNumeric c = false) : ¬ c.isDigit = true := by
  rw [isNumeric, Bool.or_eq_false_iff] at h
  rw [h.1]
  simp

theorem not_startsNumeral_cons (h : isNumeric c = false) : ¬ StartsNumeral (c :: t) := by
  rw [StartsNumeral, startsDigit_cons, startsFraction_cons, not_or]
  refine ⟨not_isDigit_of_not_isNumeric h, ?_⟩
  rintro ⟨rfl, -⟩
  exact absurd h (by decide)

/-- Other characters before a text do not count. -/
theorem firstNumeral?_append (ha : Within (isNumeric · = false) a) (t : Text) :
    firstNumeral? (a ++ t) = firstNumeral? t := by
  induction a with
  | nil => rfl
  | cons c a ih =>
      obtain ⟨hc, ha⟩ := within_cons.1 ha
      rw [List.cons_append, firstNumeral?_cons (not_startsNumeral_cons hc), ih ha]

/-- The digits that come first are the same, and what follows them has the same numerals. -/
theorem SameNumerals.takeWhile (h : SameNumerals s t) :
    s.takeWhile Char.isDigit = t.takeWhile Char.isDigit ∧
      SameNumerals (s.dropWhile Char.isDigit) (t.dropWhile Char.isDigit) := by
  induction h with
  | @done b hb =>
      cases b with
      | nil => exact ⟨rfl, .done hb⟩
      | cons c b =>
          have hc := not_isDigit_of_not_isNumeric (within_cons.1 hb).1
          rw [List.takeWhile_cons_of_neg hc, List.dropWhile_cons_of_neg hc]
          exact ⟨rfl, .done hb⟩
  | @numeric c s t hc h ih =>
      by_cases hd : c.isDigit = true
      · rw [List.takeWhile_cons_of_pos hd, List.takeWhile_cons_of_pos hd,
          List.dropWhile_cons_of_pos hd, List.dropWhile_cons_of_pos hd, ih.1]
        exact ⟨rfl, ih.2⟩
      · rw [List.takeWhile_cons_of_neg hd, List.takeWhile_cons_of_neg hd,
          List.dropWhile_cons_of_neg hd, List.dropWhile_cons_of_neg hd]
        exact ⟨rfl, .numeric hc h⟩
  | @other c a s t hc ha hw h _ =>
      obtain ⟨d, a, rfl⟩ := List.exists_cons_of_ne_nil ha
      have hc' := not_isDigit_of_not_isNumeric hc
      have hd := not_isDigit_of_not_isNumeric (within_cons.1 hw).1
      rw [List.cons_append, List.takeWhile_cons_of_neg hd, List.takeWhile_cons_of_neg hc',
        List.dropWhile_cons_of_neg hd, List.dropWhile_cons_of_neg hc', ← List.cons_append]
      exact ⟨rfl, .other hc ha hw h⟩

/-- A point comes first in both texts or in none. -/
theorem SameNumerals.point (h : SameNumerals s t) :
    (∃ s' t', s = '.' :: s' ∧ t = '.' :: t' ∧ SameNumerals s' t') ∨
      ((∀ s', s ≠ '.' :: s') ∧ ∀ t', t ≠ '.' :: t') := by
  have hother : ∀ {d : Char} {u : Text}, isNumeric d = false → ∀ u', d :: u ≠ '.' :: u' := by
    intro d u hd u' he
    rw [List.cons.injEq] at he
    rw [he.1] at hd
    exact absurd hd (by decide)
  cases h with
  | done hb =>
      refine Or.inr ⟨?_, by simp⟩
      cases s with
      | nil => simp
      | cons d b => exact hother (within_cons.1 hb).1
  | @numeric c s t hc h =>
      by_cases hpoint : c = '.'
      · exact Or.inl ⟨s, t, by rw [hpoint], by rw [hpoint], h⟩
      · exact Or.inr ⟨by simp [hpoint], by simp [hpoint]⟩
  | @other c a s t hc ha hw h =>
      obtain ⟨d, a, rfl⟩ := List.exists_cons_of_ne_nil ha
      exact Or.inr ⟨hother (within_cons.1 hw).1, hother hc⟩

theorem SameNumerals.numeralAt_eq (h : SameNumerals s t) : numeralAt s = numeralAt t := by
  obtain ⟨htake, hdrop⟩ := h.takeWhile
  unfold numeralAt
  rw [htake]
  rcases hdrop.point with ⟨s', t', hs, ht, hrest⟩ | ⟨hs, ht⟩
  · rw [hs, ht, fractionAt, fractionAt, hrest.takeWhile.1]
  · rw [fractionAt_eq_nil hs, fractionAt_eq_nil ht]

theorem SameNumerals.startsNumeral_iff (h : SameNumerals s t) :
    StartsNumeral s ↔ StartsNumeral t := by
  have hfraction : StartsFraction s ↔ StartsFraction t := by
    rcases h.point with ⟨s', t', rfl, rfl, hrest⟩ | ⟨hs, ht⟩
    · rw [startsFraction_cons, startsFraction_cons, hrest.takeWhile.1]
    · refine iff_of_false ?_ ?_
      · rintro ⟨s', he, -⟩
        exact hs s' he
      · rintro ⟨t', he, -⟩
        exact ht t' he
  rw [StartsNumeral, StartsNumeral, startsDigit_iff, startsDigit_iff, h.takeWhile.1, hfraction]

/-- Texts with the same numerals have the same first one. -/
theorem SameNumerals.firstNumeral?_eq (h : SameNumerals s t) :
    firstNumeral? s = firstNumeral? t := by
  induction h with
  | @done b hb =>
      have h := firstNumeral?_append hb []
      rwa [List.append_nil] at h
  | @numeric c s t hc h ih =>
      have hsame : SameNumerals (c :: s) (c :: t) := .numeric hc h
      by_cases hfirst : StartsNumeral (c :: t)
      · rw [firstNumeral?_of_startsNumeral hfirst,
          firstNumeral?_of_startsNumeral (hsame.startsNumeral_iff.2 hfirst), hsame.numeralAt_eq]
      · rw [firstNumeral?_cons hfirst, firstNumeral?_cons (mt hsame.startsNumeral_iff.1 hfirst), ih]
  | @other c a s t hc _ hw h ih =>
      rw [firstNumeral?_append hw, firstNumeral?_cons (not_startsNumeral_cons hc), ih]

end Same

/-! ## Blanks and letter case -/

section Around

variable {t : Text}

theorem not_isNumeric_of_isBlank {c : Char} (h : isBlank c = true) : isNumeric c = false :=
  forall_of_isBlank (P := fun c => isNumeric c = false) (by decide) h

theorem within_of_isAllBlank (h : isAllBlank t = true) : Within (isNumeric · = false) t :=
  fun c hc => not_isNumeric_of_isBlank (List.all_eq_true.1 h c hc)

/-- Other characters after a text do not count. -/
theorem sameNumerals_append {b : Text} (hb : Within (isNumeric · = false) b) (t : Text) :
    SameNumerals (t ++ b) t := by
  induction t with
  | nil => exact .done hb
  | cons c t ih =>
      cases hc : isNumeric c with
      | true => exact .numeric hc ih
      | false => exact .other (a := [c]) hc (by simp) (by simpa using hc) ih

/-- Blanks around a text do not count. -/
theorem firstNumeral?_trim (t : Text) : firstNumeral? t.trim = firstNumeral? t := by
  obtain ⟨a, b, ha, hb, ht⟩ := exists_trim t
  have hafter := (sameNumerals_append (within_of_isAllBlank hb) t.trim).firstNumeral?_eq
  have hbefore := firstNumeral?_append (within_of_isAllBlank ha) (t.trim ++ b)
  rw [← ht, hafter] at hbefore
  exact hbefore.symm

/-- The lower case of a character is a digit or a point only if the character is, and then it is the
same one. -/
theorem lowerChar_of_isNumeric :
    ∀ {c : Char}, isNumeric c = true → lowerChar c = c ∧ c ≠ 'Σ' ∧ c ≠ 'İ' := by
  intro c hc
  have hascii : ∀ n < 128, isNumeric (Char.ofNat n) = true →
      lowerChar (Char.ofNat n) = Char.ofNat n ∧ Char.ofNat n ≠ 'Σ' ∧ Char.ofNat n ≠ 'İ' := by
    decide
  have hcode : c.toNat < 128 := by
    rw [isNumeric, Bool.or_eq_true, beq_iff_eq] at hc
    rcases hc with hc | rfl
    · have := toNat_of_isDigit hc
      omega
    · decide
  have h := hascii c.toNat hcode
  rw [Char.ofNat_toNat] at h
  exact h hc

theorem isNumeric_of_isNumeric_lowerChar {c : Char} (h : isNumeric (lowerChar c) = true) :
    isNumeric c = true := by
  have hascii : ∀ n < 128, isNumeric (lowerChar (Char.ofNat n)) = true →
      isNumeric (Char.ofNat n) = true := by
    decide
  have hcodes : ∀ d : Char, isNumeric d = true → d.toNat ∈ 46 :: List.range' 48 10 := by
    intro d hd
    rw [isNumeric, Bool.or_eq_true, beq_iff_eq] at hd
    rcases hd with hd | rfl
    · have := toNat_of_isDigit hd
      rw [List.mem_cons, List.mem_range'_1]
      omega
    · decide
  have hcode := toNat_lt_of_mem_lowerChar (by decide +kernel) (hcodes _ h)
  have hc := hascii c.toNat hcode
  rw [Char.ofNat_toNat] at hc
  exact hc h

theorem sameNumerals_lowerAfter (p t : Text) : SameNumerals (lowerAfter p t) t := by
  induction t generalizing p with
  | nil => exact .done within_nil
  | cons c t ih =>
      rw [lowerAfter]
      cases hc : isNumeric c with
      | true =>
          obtain ⟨hlower, hsigma, hdotted⟩ := lowerChar_of_isNumeric hc
          rw [if_neg hsigma, if_neg hdotted, hlower]
          exact .numeric hc (ih _)
      | false =>
          refine .other hc ?_ ?_ (ih _)
          · split
            · simp
            · split <;> simp
          · split
            · split <;> decide
            · split
              · decide
              · rw [within_cons, ← Bool.not_eq_true]
                refine ⟨fun h => ?_, within_nil⟩
                rw [isNumeric_of_isNumeric_lowerChar h] at hc
                cases hc

/-- Letter case does not count. -/
theorem firstNumeral?_lower (t : Text) : firstNumeral? t.lower = firstNumeral? t :=
  (sameNumerals_lowerAfter [] t).firstNumeral?_eq

end Around

/-! ## The pattern of a numeral -/

/-- What may be read at the beginning of a text for digits, one at least, and what follows it. -/
def digitWays (t : Text) : List (Text × Text) :=
  ((Stretch.longest Char.isDigit).ways t).filter (·.1 ≠ [])

/-- What may be read for a point, which may be missing, and for digits behind it. -/
def fractionWays (t : Text) : List (Text × Text) :=
  ((Stretch.word ['.']).ways t ++ [([], t)]).flatMap fun point : Text × Text =>
    (digitWays point.2).map fun digits : Text × Text => (point.1 ++ digits.1, digits.2)

/-- What may be read for digits, which may be missing, a point, which may be missing, and digits.
Each part is tried with as much as possible first, and with less only when all ways to go on have
been tried. -/
def numeralWays (t : Text) : List (Text × Text) :=
  ((Stretch.longest Char.isDigit).ways t).flatMap fun whole =>
    (fractionWays whole.2).map fun fraction => (whole.1 ++ fraction.1, fraction.2)

/-- What the pattern of a numeral reads where it is found first in a text. -/
def searchNumeral : Text → Option Text
  | [] => none
  | c :: t =>
    match (numeralWays (c :: t)).head? with
    | some (found, _) => some found
    | none => searchNumeral t

/-- A numeral with its point. -/
def numeralText (numeral : Text × Text) : Text :=
  numeral.1 ++ if numeral.2 = [] then [] else '.' :: numeral.2

section Search

variable {t : Text}

theorem runs_of_not_startsDigit (h : ¬ StartsDigit t) : runs Char.isDigit t = [([], t)] := by
  cases t with
  | nil => rfl
  | cons c t =>
      rw [startsDigit_cons] at h
      rw [runs, if_neg h]

/-- The longest run but one leaves the last digit to what follows. -/
theorem exists_runs_concat {w : Text} {d : Char} {rest : Text} (hw : ∀ c ∈ w, c.isDigit = true)
    (hd : d.isDigit = true) (hrest : ¬ StartsDigit rest) :
    ∃ shorter, runs Char.isDigit (w ++ d :: rest)
      = shorter ++ [(w, d :: rest), (w ++ [d], rest)] := by
  induction w with
  | nil =>
      refine ⟨[], ?_⟩
      rw [List.nil_append, runs, if_pos hd, runs_of_not_startsDigit hrest]
      rfl
  | cons c w ih =>
      obtain ⟨hc, hw⟩ := List.forall_mem_cons.1 hw
      obtain ⟨shorter, hshorter⟩ := ih hw
      refine ⟨([], c :: (w ++ d :: rest)) :: shorter.map fun r => (c :: r.1, r.2), ?_⟩
      rw [List.cons_append, runs, if_pos hc, hshorter, List.map_append]
      rfl

theorem digitWays_of_not_startsDigit (h : ¬ StartsDigit t) : digitWays t = [] := by
  rw [digitWays, Stretch.ways, runs_of_not_startsDigit h]
  rfl

theorem head?_digitWays (h : StartsDigit t) :
    (digitWays t).head? = some (t.takeWhile Char.isDigit, t.dropWhile Char.isDigit) := by
  obtain ⟨shorter, hshorter⟩ := exists_runs_eq Char.isDigit t
  rw [digitWays, Stretch.ways, hshorter, List.reverse_append, List.reverse_singleton,
    List.singleton_append, List.filter_cons_of_pos (by simpa using startsDigit_iff.1 h)]
  rfl

/-- Digits without a point before them. -/
theorem fractionWays_of_ne (h : ∀ s, t ≠ '.' :: s) : fractionWays t = digitWays t := by
  have hnone : after? ['.'] t = none := by
    rw [after?_eq_none_iff]
    rintro ⟨s, hs⟩
    exact h s hs.symm
  rw [fractionWays, Stretch.ways, hnone]
  simp

theorem fractionWays_point (t : Text) :
    fractionWays ('.' :: t) = (digitWays t).map fun digits => ('.' :: digits.1, digits.2) := by
  have hnone : digitWays ('.' :: t) = [] := by
    apply digitWays_of_not_startsDigit
    rw [startsDigit_cons]
    decide
  rw [fractionWays, Stretch.ways, show after? ['.'] ('.' :: t) = some t from rfl]
  simp [hnone]

theorem fractionWays_of_not_startsFraction (hdigit : ¬ StartsDigit t) (h : ¬ StartsFraction t) :
    fractionWays t = [] := by
  by_cases hpoint : ∃ s, t = '.' :: s
  · obtain ⟨s, rfl⟩ := hpoint
    rw [fractionWays_point, digitWays_of_not_startsDigit fun hs => h ⟨s, rfl, hs⟩]
    rfl
  · rw [fractionWays_of_ne fun s hs => hpoint ⟨s, hs⟩, digitWays_of_not_startsDigit hdigit]

/-- What is read where digits with a fraction behind them come first. -/
theorem head?_numeralWays_of_fraction {rest s : Text} (hrun : IsLongestRun t rest ('.' :: s))
    (hs : StartsDigit s) :
    (numeralWays t).head?.map (·.1) = some (rest ++ '.' :: s.takeWhile Char.isDigit) := by
  obtain ⟨shorter, hshorter⟩ := exists_runs_eq Char.isDigit t
  obtain ⟨hwhole, hrest⟩ := isLongestRun_iff.1 hrun
  rw [← hwhole, ← hrest] at hshorter
  rw [numeralWays, Stretch.ways, hshorter, List.reverse_append, List.reverse_singleton,
    List.singleton_append, List.flatMap_cons, List.head?_append, List.head?_map, fractionWays_point,
    List.head?_map, head?_digitWays hs]
  rfl

/-- What is read where digits without a fraction behind them come first. -/
theorem head?_numeralWays_of_digits {w rest : Text} {d : Char}
    (hrun : IsLongestRun t (w ++ [d]) rest) (hnone : ¬ StartsFraction rest) :
    (numeralWays t).head?.map (·.1) = some (w ++ [d]) := by
  have hd : d.isDigit = true := hrun.digits d (by simp)
  have hpoint : ∀ s, d :: rest ≠ '.' :: s := by
    intro s hs
    rw [List.cons.injEq] at hs
    rw [hs.1] at hd
    exact absurd hd (by decide)
  obtain ⟨shorter, hshorter⟩ := exists_runs_concat
    (fun c hc => hrun.digits c (List.mem_append_left _ hc)) hd hrun.ends
  have hlast : IsLongestRun (d :: rest) [d] rest := ⟨rfl, by simpa using hd, hrun.ends⟩
  -- with all digits taken nothing is left for the digits that have to follow, so one is given back
  rw [numeralWays, Stretch.ways, hrun.eq, List.append_assoc, List.singleton_append, hshorter,
    List.reverse_append, List.reverse_cons, List.reverse_singleton, List.singleton_append,
    List.cons_append, List.flatMap_cons, fractionWays_of_not_startsFraction hrun.ends hnone,
    List.map_nil, List.nil_append, List.singleton_append, List.flatMap_cons, List.head?_append,
    List.head?_map, fractionWays_of_ne hpoint, head?_digitWays (startsDigit_cons.2 hd),
    ← (isLongestRun_iff.1 hlast).1]
  rfl

/-- The pattern reads the numeral that comes first, and it reads nothing if none does. -/
theorem map_head?_numeralWays (t : Text) :
    (StartsNumeral t ∧ (numeralWays t).head?.map (·.1) = some (numeralText (numeralAt t))) ∨
      (¬ StartsNumeral t ∧ numeralWays t = []) := by
  have hrun : IsLongestRun t (t.takeWhile Char.isDigit) (t.dropWhile Char.isDigit) :=
    isLongestRun_iff.2 ⟨rfl, rfl⟩
  by_cases hdigit : StartsDigit t
  · refine Or.inl ⟨Or.inl hdigit, ?_⟩
    rcases fraction_cases (t.dropWhile Char.isDigit) with ⟨s, hrest, hs⟩ | ⟨hnone, hfraction⟩
    · have hfraction : s.takeWhile Char.isDigit ≠ [] := startsDigit_iff.1 hs
      rw [hrest] at hrun
      rw [head?_numeralWays_of_fraction hrun hs, numeralText, numeralAt, hrest, fractionAt,
        if_neg hfraction]
    · obtain ⟨w, d, hw⟩ : ∃ w d, t.takeWhile Char.isDigit = w ++ [d] :=
        ⟨_, _, (List.dropLast_concat_getLast (startsDigit_iff.1 hdigit)).symm⟩
      rw [hw] at hrun
      rw [head?_numeralWays_of_digits hrun hnone, numeralText, numeralAt, hfraction, if_pos rfl, hw,
        List.append_nil]
  · by_cases hfraction : StartsFraction t
    · refine Or.inl ⟨Or.inr hfraction, ?_⟩
      obtain ⟨s, rfl, hs⟩ := hfraction
      have hempty : IsLongestRun ('.' :: s) [] ('.' :: s) := ⟨rfl, by simp, hdigit⟩
      obtain ⟨htake, hdrop⟩ := isLongestRun_iff.1 hempty
      rw [head?_numeralWays_of_fraction hempty hs, numeralText, numeralAt, ← htake, ← hdrop,
        fractionAt, if_neg (startsDigit_iff.1 hs)]
    · refine Or.inr ⟨fun h => h.elim hdigit hfraction, ?_⟩
      rw [numeralWays, Stretch.ways, runs_of_not_startsDigit hdigit, List.reverse_singleton,
        List.flatMap_singleton, fractionWays_of_not_startsFraction hdigit hfraction, List.map_nil]

/-- The pattern finds the first numeral. -/
theorem searchNumeral_eq (t : Text) : searchNumeral t = (firstNumeral? t).map numeralText := by
  induction t with
  | nil => rfl
  | cons c t ih =>
      rw [searchNumeral]
      rcases map_head?_numeralWays (c :: t) with ⟨hfirst, hread⟩ | ⟨hnone, hways⟩
      · obtain ⟨⟨found, rest⟩, hhead, hfound⟩ := Option.map_eq_some_iff.1 hread
        rw [hhead, firstNumeral?_of_startsNumeral hfirst, Option.map_some, ← hfound]
      · rw [hways, firstNumeral?_cons hnone, ← ih]
        rfl

end Search

end Prepress.Timeline
