/-
# The lettering of plain labels

What a label says are its characters other than marks and blanks, and the blanks between them.
Making a label plain takes blanks from its ends and marks from anywhere, and nothing else
(`exists_isThinned_plainLabel`).  So nothing is lost of what the label says
(`plainLabel_keeps_lettering`).
-/
import Prepress.Proofs.Text.Doubles
import Prepress.Proofs.Text.Thinning
import Prepress.Signature.Label

namespace Prepress.Signature

open Text
open scoped List

/-! ## Marks -/

/-- A label is set in bold or in italics by stars and underscores. -/
def IsMark (c : Char) : Prop := c = '*' ∨ c = '_'

instance : DecidablePred IsMark := fun c => inferInstanceAs (Decidable (c = '*' ∨ c = '_'))

/-- A closing mark is preceded by the text that it closes. -/
theorem eq_of_closing? {mark : Char} {t inner rest : Text}
    (h : closing? mark t = some (inner, rest)) : t = inner ++ [mark, mark] ++ rest := by
  induction t generalizing inner rest with
  | nil => simp [closing?] at h
  | cons c t ih =>
      rw [closing?] at h
      split at h
      · simp at h
      · split at h
        · next r hr =>
            rw [Option.some.injEq, Prod.mk.injEq] at h
            rw [← h.1, ← h.2, after?_eq_some.1 hr]
            rfl
        · obtain ⟨⟨i, r⟩, hi, he⟩ := Option.map_eq_some_iff.1 h
          rw [Prod.mk.injEq] at he
          rw [← he.1, ← he.2, ih hi]
          rfl

/-- A pair of double marks stands around the text that it sets. -/
theorem eq_of_emphasized? {t inner rest : Text} (h : emphasized? t = some (inner, rest)) :
    ∃ mark, IsMark mark ∧ t = [mark, mark] ++ (inner ++ [mark, mark] ++ rest) := by
  unfold emphasized? at h
  split at h
  · exact ⟨'*', Or.inl rfl, by rw [eq_of_closing? h]; rfl⟩
  · exact ⟨'_', Or.inr rfl, by rw [eq_of_closing? h]; rfl⟩
  · simp at h

/-! ## Taking marks out -/

theorem isThinned_double {mark : Char} (h : IsMark mark) : IsThinned IsMark [mark, mark] [] :=
  (IsThinned.nil.drop h).drop h

theorem isThinned_dropPairs (t : Text) : IsThinned IsMark t (dropPairs t) := by
  fun_induction dropPairs t with
  | case1 => exact .nil
  | case2 c t inner rest h ih =>
      obtain ⟨mark, hmark, ht⟩ := eq_of_emphasized? h
      have hdouble := isThinned_double hmark
      have hinner : IsThinned IsMark (inner ++ [mark, mark]) inner :=
        hdouble.append_left_of_nil inner
      rw [ht]
      exact hdouble.append (hinner.append ih)
  | case3 c t _ ih => exact ih.keep c

theorem isThinned_dropEnds (t : Text) : IsThinned IsMark t (dropEnds t) := by
  unfold dropEnds
  split
  · next c d r =>
      split
      · next h =>
          obtain ⟨s, hs⟩ := List.getLast?_eq_some_iff.1 h.2
          have hlast : IsThinned IsMark (s ++ [c]) s :=
            (IsThinned.nil.drop h.1).append_left_of_nil s
          rw [hs, List.dropLast_concat]
          exact hlast.drop h.1
      · exact isThinned_refl _ _
  · exact isThinned_refl _ _

/-- A label is made plain by taking blanks from its ends, then marks, and then blanks from the ends
of what is left. -/
theorem exists_isThinned_plainLabel (t : Text) :
    ∃ s, IsThinned IsMark (trim t) s ∧ plainLabel t = trim s := by
  have hpairs := isThinned_dropPairs (trim t)
  have hstars := hpairs.trans (isThinned_dropDoubles (Or.inl rfl : IsMark '*') _)
  have hunderscores := hstars.trans (isThinned_dropDoubles (Or.inr rfl : IsMark '_') _)
  exact ⟨_, hunderscores.trans (isThinned_dropEnds _), rfl⟩

/-- The plain form of a label leaves characters out. -/
theorem plainLabel_sublist (t : Text) : plainLabel t <+ t := by
  obtain ⟨s, hs, hplain⟩ := exists_isThinned_plainLabel t
  rw [hplain]
  exact (trim_sublist s).trans (hs.sublist.trans (trim_sublist t))

/-! ## Lettering -/

/-- A character of a label that is neither a mark nor blank. -/
def IsLettering (c : Char) : Prop := ¬ IsMark c ∧ isBlank c = false

instance : DecidablePred IsLettering := fun c =>
  inferInstanceAs (Decidable (¬ IsMark c ∧ isBlank c = false))

/-- What a text has besides marks and blanks. -/
def lettering (t : Text) : Text := t.filter (IsLettering ·)

variable {t s : Text}

theorem lettering_of_isThinned_mark (h : IsThinned IsMark t s) : lettering s = lettering t :=
  h.filter_eq fun _ hc => decide_eq_false fun hl => hl.1 hc

theorem lettering_of_isThinned_blank (h : IsThinned (isBlank · = true) t s) :
    lettering s = lettering t :=
  h.filter_eq fun c hc => decide_eq_false fun hl => by simp [hl.2] at hc

/-- A label made plain keeps its lettering in the same order and number. -/
theorem lettering_plainLabel (t : Text) : lettering (plainLabel t) = lettering t := by
  obtain ⟨s, hs, hplain⟩ := exists_isThinned_plainLabel t
  calc lettering (plainLabel t)
      = lettering (trim s) := by rw [hplain]
    _ = lettering s := lettering_of_isThinned_blank (isThinned_trim s)
    _ = lettering (trim t) := lettering_of_isThinned_mark hs
    _ = lettering t := lettering_of_isThinned_blank (isThinned_trim t)

/-- A text is trimmed, thinned of marks and trimmed again.  Between two characters of its lettering
nothing but marks is left out then. -/
theorem exists_between_of_isThinned {c d : Char} {a m b : Text} (hc : IsLettering c)
    (hd : IsLettering d) (h : IsThinned IsMark (trim (a ++ c :: (m ++ d :: b))) s) :
    ∃ a' m' b', trim s = a' ++ c :: (m' ++ d :: b') ∧ lettering a' = lettering a ∧
      IsThinned IsMark m m' ∧ lettering b' = lettering b := by
  -- neither of the two characters is blank, so trimming does not reach beyond them
  rw [trim_append_cons hc.2, trimEnd_append_cons hd.2] at h
  obtain ⟨a', r, rfl, ha, hr⟩ := h.exists_of_append_cons hc.1
  obtain ⟨m', b', rfl, hm, hb⟩ := hr.exists_of_append_cons hd.1
  refine ⟨trimStart a', m', trimEnd b', ?_, ?_, hm, ?_⟩
  · rw [trim_append_cons hc.2, trimEnd_append_cons hd.2]
  · rw [lettering_of_isThinned_blank (isThinned_trimStart a'), lettering_of_isThinned_mark ha,
      lettering_of_isThinned_blank (isThinned_trimStart a)]
  · rw [lettering_of_isThinned_blank (isThinned_trimEnd b'), lettering_of_isThinned_mark hb,
      lettering_of_isThinned_blank (isThinned_trimEnd b)]

/-- Nothing is lost of what a label says when it is made plain.  Blanks are taken from its ends,
then marks and nothing else, and then blanks from the ends of what is left.  So its lettering stays
in the same order and number, and between any two characters of it only marks are taken out, and
all blanks stay where they are. -/
theorem plainLabel_keeps_lettering (t : Text) :
    (∃ s, IsThinned IsMark (trim t) s ∧ plainLabel t = trim s) ∧
      lettering (plainLabel t) = lettering t ∧
      ∀ a c m d b, t = a ++ c :: (m ++ d :: b) → IsLettering c → IsLettering d →
        ∃ a' m' b', plainLabel t = a' ++ c :: (m' ++ d :: b') ∧ lettering a' = lettering a ∧
          IsThinned IsMark m m' ∧ lettering b' = lettering b := by
  refine ⟨exists_isThinned_plainLabel t, lettering_plainLabel t, ?_⟩
  rintro a c m d b rfl hc hd
  obtain ⟨s, hs, hplain⟩ := exists_isThinned_plainLabel (a ++ c :: (m ++ d :: b))
  rw [hplain]
  exact exists_between_of_isThinned hc hd hs

/-- Two words in bold, with a space and a tabulator between them. -/
theorem plainLabel_keeps_lettering_twoWords :
    ∃ a' m' b', plainLabel " **Sign** \t**here** ".toList = a' ++ 'n' :: (m' ++ 'h' :: b') ∧
      lettering a' = "Sig".toList ∧ IsThinned IsMark "** \t**".toList m' ∧
      lettering b' = "ere".toList :=
  (plainLabel_keeps_lettering _).2.2 " **Sig".toList 'n' "** \t**".toList 'h' "ere** ".toList
    (by decide) (by decide) (by decide)

end Prepress.Signature
