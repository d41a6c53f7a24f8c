/-
# Passes over line ends

A pass that leaves line ends alone, and neither takes away what stands between two of them nor
brings in new ones, may come before line ends are normalized or after it:

* `normalizeNewlines_flatMap` : a pass that writes a text for each character;
* `normalizeNewlines_replace` : a pass that replaces a mark.
-/
import Mathlib.Data.List.Basic
import Prepress.Proofs.Text.Newlines
import Prepress.Proofs.Text.Occurrence

namespace Prepress.Text

/-! ## Character by character -/

/-- Writing a text without line ends for every character but the line ends, and keeping those, does
not depend on how lines end. -/
theorem normalizeNewlines_flatMap {f : Char → Text} (hr : f '\r' = ['\r']) (hn : f '\n' = ['\n'])
    (h : ∀ c, c ≠ '\r' → c ≠ '\n' → f c ≠ [] ∧ '\r' ∉ f c ∧ '\n' ∉ f c) (t : Text) :
    normalizeNewlines (t.flatMap f) = (normalizeNewlines t).flatMap f := by
  fun_induction normalizeNewlines t with
  | case1 => rfl
  | case2 t ih =>
      rw [List.flatMap_cons, List.flatMap_cons, List.flatMap_cons, hr, hn, ← ih]
      rfl
  | case3 t ht ih =>
      -- no line feed comes to stand after the carriage return
      have hhead : (t.flatMap f).head? ≠ some '\n' := by
        cases t with
        | nil => simp
        | cons c t =>
            intro he
            have hfeed : c ≠ '\n' := fun hc => ht t (by rw [hc])
            by_cases hc : c = '\r'
            · rw [hc, List.flatMap_cons, hr] at he
              simp at he
            · obtain ⟨hne, -, hnone⟩ := h c hc hfeed
              rw [List.flatMap_cons, List.head?_append_of_ne_nil _ hne] at he
              exact hnone (List.mem_of_head? he)
      rw [List.flatMap_cons, List.flatMap_cons, hr, hn, ← ih]
      exact normalizeNewlines_return hhead
  | case4 c t _ hc ih =>
      rw [List.flatMap_cons, List.flatMap_cons, ← ih]
      by_cases hfeed : c = '\n'
      · rw [hfeed, hn]
        exact normalizeNewlines_cons (by decide) _
      · exact normalizeNewlines_append_of_not_mem (h c hc hfeed).2.1 _

/-! ## Mark by mark -/

/-- A mark with no line end in it begins a text just when it begins the normalized text. -/
theorem isPrefix_normalizeNewlines_iff {mark t : Text} (hr : '\r' ∉ mark) (hn : '\n' ∉ mark) :
    mark <+: normalizeNewlines t ↔ mark <+: t := by
  induction mark generalizing t with
  | nil => simp
  | cons m mark ih =>
      rw [List.mem_cons, not_or] at hr hn
      have hends : ∀ {s : Text} {e : Char}, '\r' = e ∨ '\n' = e → ¬ m :: mark <+: e :: s := by
        intro s e he h
        rw [List.cons_prefix_cons] at h
        rcases he with he | he
        · exact hr.1 (he.trans h.1.symm)
        · exact hn.1 (he.trans h.1.symm)
      fun_cases normalizeNewlines t with
      | case1 => exact Iff.rfl
      | case2 t => exact iff_of_false (hends (Or.inr rfl)) (hends (Or.inl rfl))
      | case3 t _ => exact iff_of_false (hends (Or.inr rfl)) (hends (Or.inl rfl))
      | case4 c t _ _ => rw [List.cons_prefix_cons, List.cons_prefix_cons, ih hr.2 hn.2]

section Replacing

variable {old new : Text} (hold : old ≠ []) (hor : '\r' ∉ old) (hon : '\n' ∉ old)
  (hnew : new ≠ []) (hnr : '\r' ∉ new) (hnn : '\n' ∉ new)

include hnew hnn in
/-- Replacing a mark brings no line feed to the beginning of a text. -/
theorem head?_replaceFrom_ne {t : Text} (h : t.head? ≠ some '\n') :
    (replaceFrom old new 0 t).head? ≠ some '\n' := by
  cases t with
  | nil => exact h
  | cons c t =>
      rw [replaceFrom]
      split
      · rw [List.head?_append_of_ne_nil _ hnew]
        exact fun he => hnn (List.mem_of_head? he)
      · exact h

include hold hor hon hnew hnr hnn

theorem normalizeNewlines_replaceFrom (t : Text) :
    normalizeNewlines (replaceFrom old new 0 t) = replaceFrom old new 0 (normalizeNewlines t) := by
  have hfeed : ∀ s : Text, ¬ old <+: '\n' :: s := by
    intro s h
    obtain ⟨c, r, rfl⟩ := List.exists_cons_of_ne_nil hold
    rw [List.cons_prefix_cons] at h
    exact hon (by rw [← h.1]; simp)
  by_cases hp : old <+: t
  · obtain ⟨r, hr⟩ := hp
    have hlength : r.length < t.length := by
      have := List.length_pos_iff.2 hold
      rw [← hr, List.length_append]
      omega
    rw [← hr, replaceFrom_mark hold, normalizeNewlines_append_of_not_mem hnr,
      normalizeNewlines_append_of_not_mem hor, replaceFrom_mark hold,
      normalizeNewlines_replaceFrom r]
  · cases t with
    | nil => rfl
    | cons c r =>
        rw [replaceFrom_cons hp]
        by_cases hc : c = '\r'
        · subst hc
          by_cases hr : r.head? = some '\n'
          · -- the carriage return and the line feed are one line end in both texts
            obtain ⟨s, rfl⟩ := List.head?_eq_some_iff.1 hr
            rw [replaceFrom_cons (hfeed s), normalizeNewlines, normalizeNewlines,
              replaceFrom_cons (hfeed _), normalizeNewlines_replaceFrom s]
          · rw [normalizeNewlines_return (head?_replaceFrom_ne hnew hnn hr),
              normalizeNewlines_return hr, replaceFrom_cons (hfeed _),
              normalizeNewlines_replaceFrom r]
        · have hkept := mt (isPrefix_normalizeNewlines_iff hor hon).1 hp
          rw [normalizeNewlines_cons hc] at hkept
          rw [normalizeNewlines_cons hc, normalizeNewlines_cons hc, replaceFrom_cons hkept,
            normalizeNewlines_replaceFrom r]
termination_by t.length

/-- Replacing a mark that lies within a line by a text that does does not depend on how lines
end. -/
theorem normalizeNewlines_replace (t : Text) :
    normalizeNewlines (replace old new t) = replace old new (normalizeNewlines t) := by
  have hempty : old.isEmpty = false := by
    rwa [List.isEmpty_eq_false_iff]
  rw [replace, replace, hempty, if_neg (by simp), if_neg (by simp)]
  exact normalizeNewlines_replaceFrom hold hor hon hnew hnr hnn t

end Replacing

end Prepress.Text
