/-
# Double marks in plain labels

When a label is made plain, pairs of double marks go first, then double stars, then double
underscores, and then a mark at either end.  So no double underscore is left.  But taking out
underscores may bring two stars together, and these stay, unless one of them is a mark at an end and
goes as such: `occursIn_doubles_plainLabel` says exactly when.
-/
import Mathlib.Data.List.Basic
import Prepress.Proofs.Signature.Reading
import Prepress.Proofs.Text.Doubles

namespace Prepress.Signature

open Text
open scoped List

/-! ## Ends -/

/-- A text begins and ends with the same mark. -/
def IsWrapped (e : Char) (w t : Text) : Prop := (e = '*' ∨ e = '_') ∧ t = e :: (w ++ [e])

theorem dropEnds_of_isWrapped {e : Char} {w t : Text} (h : IsWrapped e w t) : dropEnds t = w := by
  obtain ⟨hmark, rfl⟩ := h
  obtain ⟨d, r, hr⟩ : ∃ d r, w ++ [e] = d :: r := by
    cases w with
    | nil => exact ⟨e, [], rfl⟩
    | cons d w => exact ⟨d, w ++ [e], rfl⟩
  have hlast : (d :: r).getLast? = some e := by rw [← hr, List.getLast?_concat]
  rw [hr, dropEnds, if_pos ⟨hmark, hlast⟩, ← hr, List.dropLast_concat]

/-- The ends of a text are dropped if it is wrapped, and else the text stays. -/
theorem dropEnds_cases (t : Text) : dropEnds t = t ∨ ∃ e w, IsWrapped e w t := by
  unfold dropEnds
  split
  · next c d r =>
      split
      · next h =>
          obtain ⟨w, hw⟩ := List.getLast?_eq_some_iff.1 h.2
          exact Or.inr ⟨c, w, h.1, by rw [hw]⟩
      · exact Or.inl rfl
  · exact Or.inl rfl

theorem dropEnds_isInfix (t : Text) : dropEnds t <:+: t := by
  rcases dropEnds_cases t with hkept | ⟨e, w, hwrapped⟩
  · exact ⟨[], [], by rw [hkept, List.nil_append, List.append_nil]⟩
  · rw [dropEnds_of_isWrapped hwrapped, hwrapped.2]
    exact ⟨[e], [e], by simp⟩

/-- A text with two stars between others loses one of them when stars stand at both its ends and the
two are not both within. -/
def LosesStar (before after : Text) : Prop :=
  (before = [] ∨ after = []) ∧ (∀ c, before.head? = some c → c = '*') ∧
    ∀ c, after.getLast? = some c → c = '*'

/-- A text that loses one of two stars is wrapped in stars. -/
theorem LosesStar.isWrapped {x y : Text} (h : LosesStar x y) :
    ∃ w, IsWrapped '*' w (x ++ '*' :: '*' :: y) := by
  obtain ⟨hends, hhead, hlast⟩ := h
  have hx : ∃ s, x ++ ['*'] = '*' :: s := by
    cases x with
    | nil => exact ⟨[], rfl⟩
    | cons c x => exact ⟨x ++ ['*'], by rw [hhead c rfl, List.cons_append]⟩
  have hy : ∃ s, '*' :: y = s ++ ['*'] := by
    rcases List.eq_nil_or_concat' y with rfl | ⟨y, c, rfl⟩
    · exact ⟨[], rfl⟩
    · exact ⟨'*' :: y, by rw [hlast c List.getLast?_concat, List.cons_append]⟩
  obtain ⟨s, hs⟩ := hx
  obtain ⟨r, hr⟩ := hy
  refine ⟨s ++ r, Or.inl rfl, ?_⟩
  rw [List.append_cons, hs, hr, List.cons_append, List.append_assoc]

/-- Two stars of a wrapped text that loses none of them are both within. -/
theorem IsWrapped.stars_within {e : Char} {w t x y : Text} (h : IsWrapped e w t)
    (ht : t = x ++ '*' :: '*' :: y) (hkeeps : ¬ LosesStar x y) : x ≠ [] ∧ y ≠ [] := by
  have heq : e :: (w ++ [e]) = x ++ '*' :: '*' :: y := h.2.symm.trans ht
  have hhead := congrArg List.head? heq
  have hlast := congrArg List.getLast? heq
  rw [← List.cons_append, List.getLast?_concat, List.getLast?_append] at hlast
  by_contra hends
  rw [not_and_or, not_not, not_not] at hends
  -- one of the two stars is an end, so both ends are stars
  have hstar : e = '*' := by
    rcases hends with rfl | rfl
    · exact Option.some.inj hhead
    · exact Option.some.inj hlast
  refine hkeeps ⟨hends, ?_, ?_⟩
  · intro c hc
    rw [List.head?_append, hc] at hhead
    rw [← hstar]
    simpa using hhead.symm
  · intro c hc
    rw [← hstar]
    simpa [List.getLast?_cons, hc] using hlast.symm

/-- Two stars side by side are kept within the ends of a text unless the text loses one of them. -/
theorem stars_infix_dropEnds_iff {t : Text} :
    ['*', '*'] <:+: dropEnds t ↔ ∃ x y, t = x ++ '*' :: '*' :: y ∧ ¬ LosesStar x y := by
  constructor
  · rintro ⟨x, y, h⟩
    rw [List.append_assoc] at h
    rcases dropEnds_cases t with hkept | ⟨e, w, hwrapped⟩
    · refine ⟨x, y, by rw [← hkept, ← h]; rfl, ?_⟩
      intro hloses
      -- a wrapped text does not stay as it is
      obtain ⟨w, hw⟩ := hloses.isWrapped
      have ht : t = x ++ '*' :: '*' :: y := by rw [← hkept, ← h]; rfl
      rw [← ht] at hw
      have hlength := congrArg List.length ((dropEnds_of_isWrapped hw).symm.trans hkept)
      rw [hw.2] at hlength
      simp only [List.length_cons, List.length_append, List.length_nil] at hlength
      omega
    · refine ⟨e :: x, y ++ [e], ?_, ?_⟩
      · rw [dropEnds_of_isWrapped hwrapped] at h
        rw [hwrapped.2, ← h]
        simp
      · rintro ⟨hends, -⟩
        simp at hends
  · rintro ⟨x, y, ht, hkeeps⟩
    rcases dropEnds_cases t with hkept | ⟨e, w, hwrapped⟩
    · rw [hkept, ht]
      exact ⟨x, y, by simp⟩
    · rw [dropEnds_of_isWrapped hwrapped]
      have heq : e :: (w ++ [e]) = x ++ '*' :: '*' :: y := hwrapped.2.symm.trans ht
      have hwithin := hwrapped.stars_within ht hkeeps
      obtain ⟨d, x, rfl⟩ := List.exists_cons_of_ne_nil hwithin.1
      obtain ⟨y, f, rfl⟩ : ∃ y' f, y = y' ++ [f] :=
        ⟨y.dropLast, y.getLast hwithin.2, (List.dropLast_concat_getLast hwithin.2).symm⟩
      rw [List.cons_append, List.cons.injEq, ← List.cons_append, ← List.cons_append,
        ← List.append_assoc] at heq
      obtain ⟨hw, -⟩ := List.append_inj' heq.2 rfl
      exact ⟨x, y, by rw [hw]; simp⟩

/-! ## Labels -/

/-- A label without its pairs of double marks and its double stars. -/
def withoutStars (t : Text) : Text := dropDoubles '*' (dropPairs (trim t))

theorem plainLabel_eq (t : Text) :
    plainLabel t = trim (dropEnds (dropDoubles '_' (withoutStars t))) := rfl

/-- Two stars of a text are brought together by taking out the double underscores between them, and
neither of the two is dropped as the end of what is left. -/
def JoinsStars (t : Text) : Prop :=
  ∃ a n b, t = a ++ '*' :: (List.replicate (2 * (n + 1)) '_' ++ '*' :: b) ∧
    ¬ LosesStar (dropDoubles '_' a) (dropDoubles '_' b)

theorem stars_infix_iff (t : Text) :
    ['*', '*'] <:+: dropEnds (dropDoubles '_' (withoutStars t)) ↔ JoinsStars (withoutStars t) := by
  rw [stars_infix_dropEnds_iff]
  constructor
  · rintro ⟨x, y, h, hkeeps⟩
    obtain ⟨a, n, b, ht, rfl, rfl⟩ := (dropDoubles_eq_append_iff (by decide)).1 h
    cases n with
    | zero =>
        -- the stars would have stood side by side before
        refine absurd ⟨a, b, ?_⟩ (not_infix_dropDoubles '*' (dropPairs (trim t)))
        rw [← withoutStars, ht]
        simp
    | succ n => exact ⟨a, n, b, ht, hkeeps⟩
  · rintro ⟨a, n, b, ht, hkeeps⟩
    exact ⟨_, _, (dropDoubles_eq_append_iff (by decide)).2 ⟨a, n + 1, b, ht, rfl, rfl⟩, hkeeps⟩

/-- A mark without blanks is found in a trimmed text if it is found in the text. -/
theorem infix_trim_iff {mark t : Text} {c d : Char} (hc : mark.head? = some c)
    (hd : mark.getLast? = some d) (hcb : isBlank c = false) (hdb : isBlank d = false) :
    mark <:+: trim t ↔ mark <:+: t := by
  refine ⟨fun h => h.trans (trim_isInfix t), fun h => ?_⟩
  obtain ⟨a, b, ha, hb, ht⟩ := exists_trim t
  rw [ht, infix_append_iff (nowhere_of_head hc (not_mem_of_isAllBlank ha hcb) _)] at h
  exact infix_of_infix_append hd (not_mem_of_isAllBlank hb hdb) h

/-- No double underscore is left in a plain label.  A double star is left exactly when two stars,
after the pairs of double marks and the double stars have gone, stand with an even number of
underscores and nothing else between them, and neither is dropped as the end of the label. -/
theorem occursIn_doubles_plainLabel (t : Text) :
    occursIn "__".toList (plainLabel t) = false ∧
      (occursIn "**".toList (plainLabel t) = true ↔ JoinsStars (withoutStars t)) := by
  constructor
  · rw [occursIn_eq_false_iff, plainLabel_eq]
    intro h
    exact not_infix_dropDoubles '_' (withoutStars t)
      (h.trans ((trim_isInfix _).trans (dropEnds_isInfix _)))
  · rw [occursIn_iff, plainLabel_eq, infix_trim_iff rfl rfl (by decide) (by decide)]
    exact stars_infix_iff t

/-- A label that comes out with a double star. -/
theorem plainLabel_starsJoined :
    plainLabel "a*__*b".toList = "a**b".toList ∧
      occursIn "**".toList (plainLabel "a*__*b".toList) = true := by
  have h : plainLabel "a*__*b".toList = "a**b".toList := by cbv
  rw [h]
  exact ⟨rfl, by decide⟩

end Prepress.Signature
