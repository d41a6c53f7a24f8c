/-
# Texts thinned of characters

A text is thinned when some characters of a class are left out of it and all other characters stay
where they are (`IsThinned`).  Trimming thins a text of blanks.

* `IsThinned.filter_eq` : what lies outside the class is left in the same order and number;
* `IsThinned.exists_of_append_cons` : a character outside the class stays, and the texts before and
  after it are thinned one by one.
-/
import Prepress.Proofs.Text.Lines

namespace Prepress.Text

open scoped List

/-- A text is left of another when some characters of a class are left out and all others stay. -/
inductive IsThinned (P : Char → Prop) : Text → Text → Prop
  | nil : IsThinned P [] []
  | keep (c : Char) {t s : Text} (h : IsThinned P t s) : IsThinned P (c :: t) (c :: s)
  | drop {c : Char} {t s : Text} (hc : P c) (h : IsThinned P t s) : IsThinned P (c :: t) s

variable {P : Char → Prop} {t s r a b : Text}

/-! ## Thinning in parts and in steps -/

theorem isThinned_refl (P : Char → Prop) (t : Text) : IsThinned P t t := by
  induction t with
  | nil => exact .nil
  | cons c t ih => exact ih.keep c

theorem IsThinned.trans (h : IsThinned P t s) (hr : IsThinned P s r) : IsThinned P t r := by
  induction h generalizing r with
  | nil => exact hr
  | keep c _ ih =>
      cases hr with
      | keep _ hr => exact (ih hr).keep c
      | drop hc hr => exact (ih hr).drop hc
  | drop hc _ ih => exact (ih hr).drop hc

theorem IsThinned.append (h : IsThinned P t s) (hab : IsThinned P a b) :
    IsThinned P (t ++ a) (s ++ b) := by
  induction h with
  | nil => exact hab
  | keep c _ ih => exact ih.keep c
  | drop hc _ ih => exact ih.drop hc

/-- What is used up may stand after a text. -/
theorem IsThinned.append_left_of_nil (h : IsThinned P b []) (t : Text) :
    IsThinned P (t ++ b) t := by
  have happend := (isThinned_refl P t).append h
  rwa [List.append_nil] at happend

theorem IsThinned.sublist (h : IsThinned P t s) : s <+ t := by
  induction h with
  | nil => exact .slnil
  | keep c _ ih => exact ih.cons_cons c
  | drop _ _ ih => exact ih.cons _

/-! ## What stays -/

/-- What lies outside the class is left in the same order and number. -/
theorem IsThinned.filter_eq (h : IsThinned P t s) {p : Char → Bool} (hp : ∀ c, P c → p c = false) :
    s.filter p = t.filter p := by
  induction h with
  | nil => rfl
  | keep c _ ih => rw [List.filter_cons, List.filter_cons, ih]
  | drop hc _ ih => rw [ih, List.filter_cons_of_neg (by simp [hp _ hc])]

/-- A character outside the class stays, and the texts before and after it are thinned one by
one. -/
theorem IsThinned.exists_of_append_cons {c : Char} (h : IsThinned P (a ++ c :: b) s) (hc : ¬ P c) :
    ∃ a' b', s = a' ++ c :: b' ∧ IsThinned P a a' ∧ IsThinned P b b' := by
  induction a generalizing s with
  | nil =>
      cases h with
      | keep _ h => exact ⟨[], _, rfl, .nil, h⟩
      | drop hdrop _ => exact absurd hdrop hc
  | cons d a ih =>
      cases h with
      | keep _ h =>
          obtain ⟨a', b', rfl, ha, hb⟩ := ih h
          exact ⟨d :: a', b', rfl, ha.keep d, hb⟩
      | drop hd h =>
          obtain ⟨a', b', rfl, ha, hb⟩ := ih h
          exact ⟨a', b', rfl, ha.drop hd, hb⟩

/-! ## Trimming -/

theorem isThinned_trimStart (t : Text) : IsThinned (isBlank · = true) t (trimStart t) := by
  induction t with
  | nil => exact .nil
  | cons c t ih =>
      cases hc : isBlank c with
      | false =>
          rw [trimStart_cons hc]
          exact isThinned_refl _ _
      | true =>
          rw [trimStart, List.dropWhile_cons_of_pos hc]
          exact ih.drop hc

theorem isThinned_trimEnd (t : Text) : IsThinned (isBlank · = true) t (trimEnd t) := by
  induction t with
  | nil => exact .nil
  | cons c t ih =>
      rw [trimEnd]
      split
      · next hnone =>
          rw [hnone] at ih
          split
          · next hc => exact ih.drop hc
          · exact ih.keep c
      · exact ih.keep c

theorem isThinned_trim (t : Text) : IsThinned (isBlank · = true) t (trim t) :=
  (isThinned_trimStart t).trans (isThinned_trimEnd (trimStart t))

end Prepress.Text
