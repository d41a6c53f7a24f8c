/-
# Double marks taken out

Double marks are taken out of a text from the left (`dropDoubles`), so of a run of marks nothing is
left or one mark.

* `not_infix_dropDoubles` : no double mark is left;
* `dropDoubles_append_cons` : what stands before another character and what stands after it are
  looked at one after the other;
* `dropDoubles_eq_append_iff` : two other characters come to stand side by side exactly when an even
  number of marks stood between them.
-/
import Prepress.Proofs.Text.Occurrence
import Prepress.Proofs.Text.Thinning

namespace Prepress.Text

open scoped List

/-- The text without its double marks, which are taken out from the left. -/
def dropDoubles (mark : Char) (t : Text) : Text := replace [mark, mark] [] t

variable {m c : Char} {t : Text}

/-! ## From the left -/

theorem dropDoubles_nil (m : Char) : dropDoubles m [] = [] := rfl

theorem dropDoubles_double (m : Char) (t : Text) :
    dropDoubles m (m :: m :: t) = dropDoubles m t := by
  have hmark : [m, m] ≠ [] := by simp
  exact replaceFrom_mark hmark [] t

/-- A character that begins no double mark stays. -/
theorem dropDoubles_cons (h : ¬ [m, m] <+: c :: t) :
    dropDoubles m (c :: t) = c :: dropDoubles m t :=
  replaceFrom_cons h []

/-- What holds of the empty text, and goes on to a text from what follows its double mark, or else
from what follows its first character, holds of all texts. -/
theorem doubles_induction (m : Char) {motive : Text → Prop} (nil : motive [])
    (double : ∀ t, motive t → motive (m :: m :: t))
    (single : ∀ c t, ¬ [m, m] <+: c :: t → motive t → motive (c :: t)) : ∀ t, motive t
  | [] => nil
  | c :: t => by
    by_cases h : [m, m] <+: c :: t
    · obtain ⟨r, hr⟩ := h
      rw [← hr]
      exact double r (doubles_induction m nil double single r)
    · exact single c t h (doubles_induction m nil double single t)
termination_by t => t.length
decreasing_by
  · have := congrArg List.length hr
    simp only [List.length_append, List.length_cons, List.length_nil] at this
    simp only [List.length_cons]
    omega
  · simp

/-! ## What is left -/

/-- Nothing but marks is taken out. -/
theorem isThinned_dropDoubles {P : Char → Prop} (hm : P m) (t : Text) :
    IsThinned P t (dropDoubles m t) := by
  induction t using doubles_induction m with
  | nil => exact .nil
  | double t ih =>
      rw [dropDoubles_double]
      exact (ih.drop hm).drop hm
  | single c t hc ih =>
      rw [dropDoubles_cons hc]
      exact ih.keep c

/-- A text is used up exactly when it is an even number of marks. -/
theorem dropDoubles_eq_nil_iff : dropDoubles m t = [] ↔ ∃ n, t = List.replicate (2 * n) m := by
  constructor
  · intro h
    induction t using doubles_induction m with
    | nil => exact ⟨0, rfl⟩
    | double t ih =>
        rw [dropDoubles_double] at h
        obtain ⟨n, rfl⟩ := ih h
        exact ⟨n + 1, rfl⟩
    | single c t hc _ =>
        rw [dropDoubles_cons hc] at h
        cases h
  · rintro ⟨n, rfl⟩
    induction n with
    | zero => rfl
    | succ n ih => exact (dropDoubles_double m _).trans ih

/-- A mark comes first only where one came first before. -/
theorem head?_dropDoubles_ne (h : t.head? ≠ some m) : (dropDoubles m t).head? ≠ some m := by
  cases t with
  | nil => exact h
  | cons c t =>
      have hc : ¬ [m, m] <+: c :: t := by
        intro hp
        rw [List.cons_prefix_cons] at hp
        exact h (congrArg some hp.1.symm)
      rw [dropDoubles_cons hc]
      exact h

/-- No double mark is left. -/
theorem not_infix_dropDoubles (m : Char) (t : Text) : ¬ [m, m] <:+: dropDoubles m t := by
  induction t using doubles_induction m with
  | nil => simp [dropDoubles_nil]
  | double t ih => rwa [dropDoubles_double]
  | single c t hc ih =>
      rw [dropDoubles_cons hc, List.infix_cons_iff, not_or]
      refine ⟨?_, ih⟩
      intro hp
      rw [List.cons_prefix_cons] at hp
      obtain ⟨rfl, hp⟩ := hp
      -- a mark that stays is followed by another character, or by none
      have hnext : t.head? ≠ some m := by
        intro ht
        obtain ⟨s, rfl⟩ := List.head?_eq_some_iff.1 ht
        exact hc (List.prefix_append [m, m] s)
      exact head?_dropDoubles_ne hnext (head?_eq_of_isPrefix hp (by simp))

/-! ## Other characters -/

/-- A double mark does not reach over another character. -/
theorem dropDoubles_append_cons (hc : c ≠ m) (a b : Text) :
    dropDoubles m (a ++ c :: b) = dropDoubles m a ++ c :: dropDoubles m b := by
  have hmark : c ∉ [m, m] := by simp [hc]
  induction a using doubles_induction m with
  | nil =>
      refine dropDoubles_cons fun hp => ?_
      have hp := isPrefix_of_isPrefix_append_cons (a := []) hmark hp
      simp at hp
  | double a ih =>
      rw [dropDoubles_double, ← ih]
      exact dropDoubles_double m _
  | single d a hd ih =>
      have hd' : ¬ [m, m] <+: d :: (a ++ c :: b) := fun hp =>
        hd (isPrefix_of_isPrefix_append_cons (a := d :: a) hmark hp)
      rw [List.cons_append, dropDoubles_cons hd', dropDoubles_cons hd, ih]
      rfl

/-- Where a character is left, the text is cut in two. -/
theorem exists_of_dropDoubles_eq {x y : Text} (h : dropDoubles m t = x ++ c :: y) :
    ∃ a b, t = a ++ c :: b ∧ dropDoubles m a = x ∧ dropDoubles m b = y := by
  induction t using doubles_induction m generalizing x with
  | nil => simp [dropDoubles_nil] at h
  | double t ih =>
      rw [dropDoubles_double] at h
      obtain ⟨a, b, rfl, ha, hb⟩ := ih h
      exact ⟨m :: m :: a, b, rfl, by rw [dropDoubles_double, ha], hb⟩
  | single d t hd ih =>
      rw [dropDoubles_cons hd] at h
      cases x with
      | nil =>
          rw [List.nil_append, List.cons.injEq] at h
          exact ⟨[], t, by rw [h.1, List.nil_append], rfl, h.2⟩
      | cons e x =>
          rw [List.cons_append, List.cons.injEq] at h
          obtain ⟨a, b, rfl, ha, hb⟩ := ih h.2
          have hd' : ¬ [m, m] <+: d :: a := fun hp => hd (hp.trans (List.prefix_append _ _))
          exact ⟨d :: a, b, rfl, by rw [dropDoubles_cons hd', ha, h.1], hb⟩

/-- Another character is left twice in a row exactly when an even number of marks stood between its
two occurrences. -/
theorem dropDoubles_eq_append_iff (hc : c ≠ m) {x y : Text} :
    dropDoubles m t = x ++ c :: c :: y ↔
      ∃ a n b, t = a ++ c :: (List.replicate (2 * n) m ++ c :: b) ∧ dropDoubles m a = x ∧
        dropDoubles m b = y := by
  constructor
  · intro h
    obtain ⟨a, r, rfl, ha, hr⟩ := exists_of_dropDoubles_eq h
    obtain ⟨between, b, rfl, hnone, hb⟩ := exists_of_dropDoubles_eq (x := []) hr
    obtain ⟨n, rfl⟩ := dropDoubles_eq_nil_iff.1 hnone
    exact ⟨a, n, b, rfl, ha, hb⟩
  · rintro ⟨a, n, b, rfl, rfl, rfl⟩
    rw [dropDoubles_append_cons hc, dropDoubles_append_cons hc, dropDoubles_eq_nil_iff.2 ⟨n, rfl⟩]
    rfl

end Prepress.Text
