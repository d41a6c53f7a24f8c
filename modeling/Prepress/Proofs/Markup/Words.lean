/-
# Words in brackets

Fixed pieces of markup have no square bracket, and they begin and end with signs (`IsBare`).  So
they are walls for a word in brackets (`IsBracketed.isWall`): in markup such a word is found just
where it is found in one of the texts that are shown, and writing references for characters does
not change that (`infix_escape_iff`).
-/
import Prepress.Proofs.Markup.References
import Prepress.Proofs.Text.Wall

namespace Prepress.Markup

open Text

/-! ## Words in brackets -/

/-- A word of letters in square brackets. -/
def IsBracketed (mark : Text) : Prop :=
  ∃ word, Within (·.isAlpha = true) word ∧ mark = '[' :: word ++ [']']

/-- A character that no word in brackets has. -/
def IsSign (c : Char) : Prop := c.isAlpha = false ∧ c ∉ ['[', ']']

instance (c : Char) : Decidable (IsSign c) := by
  unfold IsSign
  infer_instance

theorem isSign_of_isDigit {c : Char} (h : c.isDigit = true) : IsSign c := by
  have hbrackets : ∀ d ∈ ['[', ']'], d.isDigit = false := by decide
  constructor
  · by_contra halpha
    rw [Bool.not_eq_false] at halpha
    have hdigit := toNat_of_isDigit h
    have hletter := toNat_of_isAlpha halpha
    omega
  · intro hc
    rw [hbrackets c hc] at h
    simp at h

variable {mark : Text}

theorem IsBracketed.ne_nil (hm : IsBracketed mark) : mark ≠ [] := by
  obtain ⟨word, -, rfl⟩ := hm
  exact List.cons_ne_nil _ _

theorem IsBracketed.not_mem (hm : IsBracketed mark) {c : Char} (hc : IsSign c) : c ∉ mark := by
  obtain ⟨word, hw, rfl⟩ := hm
  obtain ⟨halpha, hbracket⟩ := hc
  simp only [List.mem_cons, List.not_mem_nil, or_false, not_or] at hbracket
  rw [List.mem_append, List.mem_cons, List.mem_singleton, not_or, not_or]
  refine ⟨⟨hbracket.1, ?_⟩, hbracket.2⟩
  intro hmem
  have hletter : c.isAlpha = true := hw c hmem
  rw [halpha] at hletter
  simp at hletter

/-- A text without an opening bracket has no word in brackets. -/
theorem IsBracketed.not_isInfix (hm : IsBracketed mark) {t : Text} (h : '[' ∉ t) :
    ¬ mark <:+: t := by
  obtain ⟨word, -, rfl⟩ := hm
  exact fun hi => h (hi.subset (by simp))

theorem IsBracketed.not_inLines (hm : IsBracketed mark) {ls : List Text}
    (h : ∀ l ∈ ls, '[' ∉ l) : ¬ InLines mark ls := by
  rintro ⟨l, hl, hi⟩
  exact hm.not_isInfix (h l hl) hi

/-! ## Fixed pieces of markup -/

/-- A text without an opening bracket that begins and ends with signs. -/
def IsBare (w : Text) : Prop :=
  '[' ∉ w ∧ (∃ c, w.head? = some c ∧ IsSign c) ∧ ∃ c, w.getLast? = some c ∧ IsSign c

instance (w : Text) : Decidable (IsBare w) :=
  decidable_of_iff
    ('[' ∉ w ∧ w.head?.any (IsSign ·) = true ∧ w.getLast?.any (IsSign ·) = true)
    (by simp [IsBare, Option.any_eq_true])

/-- A text of signs is bare, unless it is empty. -/
theorem isBare_of_within {w : Text} (h : Within IsSign w) (hne : w ≠ []) : IsBare w := by
  refine ⟨h.not_mem (by decide), ?_, ?_⟩
  · cases w with
    | nil => exact absurd rfl hne
    | cons c s => exact ⟨c, rfl, h c (by simp)⟩
  · exact ⟨w.getLast hne, List.getLast?_eq_some_getLast hne, h _ (List.getLast_mem hne)⟩

/-- A literal is bare when the characters it is written with are. -/
theorem isBare_literal {w : Text} (h : IsBare w) : IsBare (String.ofList w).toList := by
  rwa [String.toList_ofList]

/-- What is between two bare texts does not have to be bare. -/
theorem IsBare.append {a t b : Text} (ha : IsBare a) (ht : '[' ∉ t) (hb : IsBare b) :
    IsBare (a ++ t ++ b) := by
  obtain ⟨ha', ⟨c, hc, hsign⟩, -⟩ := ha
  obtain ⟨hb', -, d, hd, hsign'⟩ := hb
  refine ⟨?_, ⟨c, ?_, hsign⟩, d, ?_, hsign'⟩
  · simp [ha', ht, hb']
  · obtain ⟨s, rfl⟩ := List.head?_eq_some_iff.1 hc
    rfl
  · obtain ⟨s, rfl⟩ := List.getLast?_eq_some_iff.1 hd
    rw [← List.append_assoc, List.getLast?_concat]

/-- A bare text is a wall for every word in brackets. -/
theorem IsBracketed.isWall (hm : IsBracketed mark) {w : Text} (h : IsBare w) : IsWall mark w := by
  obtain ⟨hw, ⟨c, hc, hsign⟩, d, hd, hsign'⟩ := h
  obtain ⟨s, hs⟩ := List.head?_eq_some_iff.1 hc
  obtain ⟨r, hr⟩ := List.getLast?_eq_some_iff.1 hd
  exact ⟨⟨⟨c, s, hs, hm.not_mem hsign⟩, r, d, hr, hm.not_mem hsign'⟩, hm.not_isInfix hw⟩

/-- Between two fixed pieces of markup a word in brackets is found just where it is found in the
text between them. -/
theorem IsBracketed.infix_between_iff (hm : IsBracketed mark) {v w : Text} (hv : IsBare v)
    (hw : IsBare w) (t : Text) : mark <:+: v ++ t ++ w ↔ mark <:+: t :=
  (hm.isWall hv).infix_between_iff (hm.isWall hw) t

/-! ## Escaped texts -/

/-- Escaping a text neither brings a word in brackets about nor takes it away. -/
theorem infix_escape_iff (hm : IsBracketed mark) (t : Text) :
    mark <:+: escape t ↔ mark <:+: t := by
  have hescapes : ∀ s ∈ escapes, IsSign s.1 ∧ IsBare s.2 := by decide
  refine infix_flatMap_iff ?_ t
  intro c
  rcases escapeChar_cases c with hs | ⟨hs, -⟩
  · exact Or.inr ⟨hm.not_mem (hescapes _ hs).1, hm.isWall (hescapes _ hs).2⟩
  · exact Or.inl hs

end Prepress.Markup
