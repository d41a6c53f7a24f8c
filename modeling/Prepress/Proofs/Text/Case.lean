/-
# Lower case and blanks

A blank stays as it is in lower case, and nothing else becomes one (`not_isBlank_of_mem_lower`).
The form of a capital sigma depends on the letters around it, but not on what stands behind a blank,
so a word has its own lower case whatever follows the blank after it (`lower_append_cons`).
-/
import Prepress.Proofs.Text.Lines
import Prepress.Text.Case

namespace Prepress.Text

/-! ## Single characters -/

theorem mem_blankCodes_of_isBlank {n : Nat} (h : isBlank (Char.ofNat n) = true) :
    n ∈ blankCodes := by
  have hcodes : ∀ k ∈ blankCodes, (Char.ofNat k).toNat ∈ blankCodes := by decide
  have hmem := forall_of_isBlank (P := fun c => c.toNat ∈ blankCodes) hcodes h
  by_cases hvalid : n.isValidChar
  · have hcode : (Char.ofNat n).toNat = n := by
      unfold Char.ofNat
      rw [dif_pos hvalid]
      rfl
    rwa [hcode] at hmem
  · have hzero : (Char.ofNat n).toNat = 0 := by
      unfold Char.ofNat
      rw [dif_neg hvalid]
      rfl
    rw [hzero] at hmem
    exact absurd hmem (by decide)

/-- No letter has a blank as its lower case. -/
theorem isBlank_of_isBlank_lowerChar {c : Char} (h : isBlank (lowerChar c) = true) :
    isBlank c = true := by
  rw [lowerChar] at h
  split at h
  · rcases toLower_eq_cases c with hc | ⟨-, hc⟩
    · rwa [hc] at h
    · have hlower : ∀ n ∈ blankCodes, (Char.ofNat n).isLower = false := by decide
      rw [forall_of_isBlank (P := fun d => d.isLower = false) hlower h] at hc
      simp at hc
  · rw [inOtherCase] at h
    split at h
    · next r hr =>
        -- the letters of a run have their lower case in a range without blanks
        have hruns : ∀ r ∈ caseRuns, ∀ n ∈ blankCodes,
            ¬ ((r.first : Int) + r.offset ≤ n ∧ (n : Int) ≤ r.last + r.offset) := by
          decide +kernel
        have hcode := mem_blankCodes_of_isBlank h
        have hcontains : r.contains c.toNat = true :=
          List.find?_some (p := fun r : CaseRun => r.contains c.toNat) hr
        simp only [CaseRun.contains, Bool.and_eq_true, decide_eq_true_eq] at hcontains
        have hpos : 0 < ((c.toNat : Int) + r.offset).toNat := by
          have hblanks : ∀ n ∈ blankCodes, 0 < n := by decide
          exact hblanks _ hcode
        refine absurd ?_ (hruns r (List.mem_of_find?_eq_some hr) _ hcode)
        omega
    · exact h

/-- A character outside of ASCII has no lower case with one of some codes, if no run of letters has
its lower case there. -/
theorem toNat_lt_of_mem_lowerChar {codes : List Nat} {c : Char}
    (hcodes : (∀ n ∈ codes, 0 < n ∧ n < 128) ∧ ∀ r ∈ caseRuns, 128 ≤ r.last → ∀ n ∈ codes,
      ¬ (128 ≤ (n : Int) - r.offset ∧ (r.first : Int) + r.offset ≤ n ∧
        (n : Int) ≤ r.last + r.offset))
    (h : (lowerChar c).toNat ∈ codes) : c.toNat < 128 := by
  by_contra hc
  rw [lowerChar, if_neg hc, inOtherCase] at h
  split at h
  · next r hr =>
      have hcontains : r.contains c.toNat = true :=
        List.find?_some (p := fun r : CaseRun => r.contains c.toNat) hr
      simp only [CaseRun.contains, Bool.and_eq_true, decide_eq_true_eq] at hcontains
      have hpos := (hcodes.1 _ h).1
      have hcode : (Char.ofNat ((c.toNat : Int) + r.offset).toNat).toNat
          = ((c.toNat : Int) + r.offset).toNat := by
        by_cases hvalid : ((c.toNat : Int) + r.offset).toNat.isValidChar
        · unfold Char.ofNat
          rw [dif_pos hvalid]
          rfl
        · unfold Char.ofNat at hpos
          rw [dif_neg hvalid] at hpos
          exact absurd hpos (by decide)
      rw [hcode] at h hpos
      refine hcodes.2 r (List.mem_of_find?_eq_some hr) (by omega) _ h ?_
      omega
  · exact hc (hcodes.1 _ h).2

theorem lowerChar_of_isBlank {c : Char} (h : isBlank c = true) :
    lowerChar c = c ∧ c ≠ 'Σ' ∧ c ≠ 'İ' := by
  have hall : ∀ n ∈ blankCodes, lowerChar (Char.ofNat n) = Char.ofNat n ∧
      Char.ofNat n ≠ 'Σ' ∧ Char.ofNat n ≠ 'İ' := by
    decide
  exact forall_of_isBlank (P := fun c => lowerChar c = c ∧ c ≠ 'Σ' ∧ c ≠ 'İ') hall h

/-- A blank counts when the neighbour of a sigma is looked for, and has no case. -/
theorem isCaseIgnorable_of_isBlank {c : Char} (h : isBlank c = true) :
    isCaseIgnorable c = false ∧ isCased c = false := by
  have hall : ∀ n ∈ blankCodes,
      isCaseIgnorable (Char.ofNat n) = false ∧ isCased (Char.ofNat n) = false := by
    decide +kernel
  exact forall_of_isBlank (P := fun c => isCaseIgnorable c = false ∧ isCased c = false) hall h

/-! ## Words -/

/-- A word of ASCII letters is put into lower case letter by letter. -/
theorem lowerAfter_eq_map {t : Text} (h : ∀ c ∈ t, c.toLower.isLower = true) (p : Text) :
    lowerAfter p t = t.map Char.toLower := by
  induction t generalizing p with
  | nil => rfl
  | cons c t ih =>
      obtain ⟨hc, ht⟩ := List.forall_mem_cons.1 h
      have hcode := (toNat_of_isAlpha (isAlpha_of_isLower_toLower hc)).2
      have hsigma : c ≠ 'Σ' := by
        rintro rfl
        exact absurd hcode (by decide)
      have hdotted : c ≠ 'İ' := by
        rintro rfl
        exact absurd hcode (by decide)
      rw [lowerAfter, if_neg hsigma, if_neg hdotted, lowerChar, if_pos (by omega), ih ht]
      rfl

/-- Lower case brings in no blank. -/
theorem not_isBlank_of_mem_lowerAfter {p t : Text} (ht : Within (isBlank · = false) t) :
    Within (isBlank · = false) (lowerAfter p t) := by
  induction t generalizing p with
  | nil => exact within_nil
  | cons c t ih =>
      obtain ⟨hc, ht⟩ := within_cons.1 ht
      rw [lowerAfter, within_append]
      refine ⟨?_, ih ht⟩
      split
      · split <;> decide
      · split
        · decide
        · rw [within_cons, ← Bool.not_eq_true]
          refine ⟨fun h => ?_, within_nil⟩
          rw [isBlank_of_isBlank_lowerChar h] at hc
          simp at hc

theorem not_isBlank_of_mem_lower {t : Text} (ht : Within (isBlank · = false) t) :
    Within (isBlank · = false) t.lower :=
  not_isBlank_of_mem_lowerAfter ht

variable {b : Char}

/-- No letter behind a blank is the neighbour of what stands before it. -/
theorem casedAhead_append_cons (hb : isBlank b = true) (w t : Text) :
    casedAhead (w ++ b :: t) = casedAhead w := by
  obtain ⟨hignorable, hcased⟩ := isCaseIgnorable_of_isBlank hb
  rw [casedAhead, casedAhead, dropWhile_append_cons hignorable]
  cases w.dropWhile isCaseIgnorable with
  | nil => exact hcased
  | cons c s => rfl

/-- What stands behind a blank does not change the lower case of what stands before it. -/
theorem lowerAfter_append_cons (hb : isBlank b = true) (p w t : Text) :
    ∃ s, lowerAfter p (w ++ b :: t) = lowerAfter p w ++ b :: s := by
  induction w generalizing p with
  | nil =>
      obtain ⟨hlower, hsigma, hdotted⟩ := lowerChar_of_isBlank hb
      refine ⟨lowerAfter (b :: p) t, ?_⟩
      rw [List.nil_append, lowerAfter, lowerAfter, if_neg hsigma, if_neg hdotted, hlower]
      rfl
  | cons c w ih =>
      obtain ⟨s, hs⟩ := ih (c :: p)
      refine ⟨s, ?_⟩
      rw [List.cons_append, lowerAfter, lowerAfter, hs, casedAhead_append_cons hb,
        List.append_assoc]

/-- A word before a blank has its own lower case. -/
theorem lower_append_cons (hb : isBlank b = true) (w t : Text) :
    ∃ s, (w ++ b :: t).lower = w.lower ++ b :: s :=
  lowerAfter_append_cons hb [] w t

end Prepress.Text
