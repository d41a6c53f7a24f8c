/-
# Safe texts

The passes that make a text safe work on each character on its own (`sanitize_eq_flatMap`).  So
the safe form of a text consists of safe characters, and safe characters are left as they are:

* `isSafe_of_mem_sanitize` : every character of a safe form is safe;
* `sanitize_eq_self` : a text of safe characters is its own safe form.

What the surface puts in place of an unsafe character is spelled with letters, digits and eight
marks (`IsSpelling`).  None of them is blank, and no mark that a document is read by is among
them.
-/
import Mathlib.Data.List.Basic
import Prepress.Proofs.Text.Lines
import Prepress.Proofs.Text.Occurrence
import Prepress.Proofs.Text.Within
import Prepress.Surface

namespace Prepress.Surface

open Text

/-! ## Character by character -/

theorem foldl_replaceChar_append (ss : List (Char × Text)) (a b : Text) :
    ss.foldl (fun t s => replaceChar s.1 s.2 t) (a ++ b)
      = ss.foldl (fun t s => replaceChar s.1 s.2 t) a
        ++ ss.foldl (fun t s => replaceChar s.1 s.2 t) b := by
  induction ss generalizing a b with
  | nil => rfl
  | cons s ss ih => rw [List.foldl_cons, List.foldl_cons, List.foldl_cons, replaceChar_append, ih]

theorem sanitize_append (a b : Text) : sanitize (a ++ b) = sanitize a ++ sanitize b := by
  rw [sanitize, foldl_replaceChar_append, List.flatMap_append]
  rfl

theorem replaceChar_eq_self {old : Char} {t : Text} (new : Text) (h : old ∉ t) :
    replaceChar old new t = t := by
  induction t with
  | nil => rfl
  | cons c t ih =>
      rw [List.mem_cons, not_or] at h
      rw [replaceChar, List.flatMap_cons, if_neg (Ne.symm h.1), ← replaceChar, ih h.2]
      rfl

/-- The passes leave a text alone that has none of their symbols. -/
theorem foldl_replaceChar_eq_self {ss : List (Char × Text)} {t : Text}
    (h : ∀ s ∈ ss, s.1 ∉ t) : ss.foldl (fun t s => replaceChar s.1 s.2 t) t = t := by
  induction ss with
  | nil => rfl
  | cons s ss ih =>
      rw [List.foldl_cons, replaceChar_eq_self s.2 (h s (by simp))]
      exact ih fun u hu => h u (List.mem_cons_of_mem s hu)

/-- The passes and the safe form agree on every symbol of the table. -/
theorem sanitize_symbol : ∀ s ∈ symbols, sanitize [s.1] = s.2 := by decide

theorem sanitize_singleton (c : Char) : sanitize [c] = safeForm c := by
  rw [safeForm]
  split
  · next s hs =>
      have hc : s.1 = c := by simpa using List.find?_some hs
      rw [← hc]
      exact sanitize_symbol s (List.mem_of_find?_eq_some hs)
  · next hs =>
      have hnone : ∀ s ∈ symbols, s.1 ∉ [c] := by
        intro s hmem hc
        exact List.find?_eq_none.1 hs s hmem (beq_iff_eq.2 (List.mem_singleton.1 hc))
      rw [sanitize, foldl_replaceChar_eq_self hnone, List.flatMap_singleton]

theorem sanitize_cons (c : Char) (t : Text) : sanitize (c :: t) = safeForm c ++ sanitize t := by
  rw [← List.singleton_append, sanitize_append, sanitize_singleton]

/-- The passes one after the other put the safe form in place of each character. -/
theorem sanitize_eq_flatMap (t : Text) : sanitize t = t.flatMap safeForm := by
  induction t with
  | nil => rfl
  | cons c t ih => rw [sanitize_cons, ih, List.flatMap_cons]

/-! ## Spellings -/

/-- The characters that the surface spells other characters with. -/
def IsSpelling (c : Char) : Prop := c.isAlphanum = true ∨ c ∈ "&#;<>^-.".toList

instance (c : Char) : Decidable (IsSpelling c) := by
  unfold IsSpelling
  infer_instance

theorem isSpelling_of_isDigit {c : Char} (h : c.isDigit = true) : IsSpelling c := by
  refine Or.inl ?_
  rw [Char.isAlphanum, h, Bool.or_true]

/-- All symbols lie beyond ASCII and are not safe, and their spellings are not empty. -/
theorem symbols_spec : ∀ s ∈ symbols,
    0x7E < s.1.toNat ∧ isKnownSafe s.1.toNat = false ∧ s.2 ≠ [] ∧ ∀ c ∈ s.2, IsSpelling c := by
  decide

theorem symbols_find?_eq_none {c : Char} (h : isSafe c = true) :
    symbols.find? (·.1 == c) = none := by
  rw [List.find?_eq_none]
  intro s hs hsc
  have hc : s.1 = c := by simpa using hsc
  rw [isSafe, Bool.or_eq_true, Bool.and_eq_true] at h
  rcases h with ⟨-, h⟩ | h
  · have hany : symbols.any (·.1 == c) = true := List.any_eq_true.2 ⟨s, hs, hsc⟩
    rw [hany] at h
    simp at h
  · rw [← hc, (symbols_spec s hs).2.1] at h
    simp at h

/-- A safe character is its own safe form. -/
theorem safeForm_eq_self {c : Char} (h : isSafe c = true) : safeForm c = [c] := by
  rw [safeForm, symbols_find?_eq_none h]
  show reference c = [c]
  rw [reference, if_neg]
  rintro ⟨hl, hk⟩
  rw [isSafe, Bool.or_eq_true, Bool.and_eq_true, decide_eq_true_eq] at h
  rcases h with ⟨h, -⟩ | h
  · omega
  · exact hk h

/-- An unsafe character has a spelling of its own, or it is referred to by its number. -/
theorem safeForm_of_unsafe {c : Char} (h : isSafe c = false) :
    (∃ s ∈ symbols, safeForm c = s.2) ∨
      safeForm c = ['&', '#'] ++ ofNat c.toNat ++ [';'] := by
  rw [safeForm]
  split
  · next s hs => exact Or.inl ⟨s, List.mem_of_find?_eq_some hs, rfl⟩
  · next hs =>
      refine Or.inr (if_pos ?_)
      have hn : symbols.any (·.1 == c) = false := by
        rw [List.any_eq_false]
        exact fun s hsm => List.find?_eq_none.1 hs s hsm
      rw [isSafe, hn] at h
      simp only [Bool.not_false, Bool.and_true, Bool.or_eq_false_iff,
        decide_eq_false_iff_not] at h
      exact ⟨by omega, by rw [h.2]; simp⟩

/-- An unsafe character is spelled out. -/
theorem isSpelling_of_mem_safeForm {c d : Char} (h : isSafe c = false) (hd : d ∈ safeForm c) :
    IsSpelling d := by
  rcases safeForm_of_unsafe h with ⟨s, hs, he⟩ | he
  · rw [he] at hd
    exact (symbols_spec s hs).2.2.2 d hd
  · rw [he] at hd
    simp only [List.mem_append, List.mem_cons, List.not_mem_nil, or_false] at hd
    rcases hd with ((hd | hd) | hd) | hd
    · rw [hd]; decide
    · rw [hd]; decide
    · exact isSpelling_of_isDigit (isDigit_of_mem_ofNat hd)
    · rw [hd]; decide

/-- The characters that spellings begin with. -/
def spellingHeads : Text := "&-<^v.".toList

/-- A character is its own safe form, or its safe form begins like a spelling. -/
theorem safeForm_cases (c : Char) :
    safeForm c = [c] ∨ isSafe c = false ∧ ∃ d ∈ spellingHeads, ∃ s, safeForm c = d :: s := by
  have hsymbols : ∀ s ∈ symbols, s.2.head?.any (· ∈ spellingHeads) = true := by decide
  cases hc : isSafe c with
  | true => exact Or.inl (safeForm_eq_self hc)
  | false =>
      rcases safeForm_of_unsafe hc with ⟨s, hs, he⟩ | he
      · have hhead := hsymbols s hs
        rw [Option.any_eq_true] at hhead
        obtain ⟨d, hd, hmem⟩ := hhead
        obtain ⟨r, hr⟩ := List.head?_eq_some_iff.1 hd
        exact Or.inr ⟨rfl, d, of_decide_eq_true hmem, r, by rw [he, hr]⟩
      · exact Or.inr ⟨rfl, '&', by decide, _, he⟩

theorem safeForm_ne_nil (c : Char) : safeForm c ≠ [] := by
  rcases safeForm_cases c with h | ⟨-, d, -, s, h⟩
  · rw [h]
    exact List.cons_ne_nil c []
  · rw [h]
    exact List.cons_ne_nil d s

/-! ## Safe characters -/

/-- Characters of ASCII are safe. -/
theorem isSafe_of_le {c : Char} (h : c.toNat ≤ 0x7E) : isSafe c = true := by
  have hn : symbols.any (·.1 == c) = false := by
    rw [List.any_eq_false]
    intro s hs hc
    have := (symbols_spec s hs).1
    rw [show s.1 = c by simpa using hc] at this
    omega
  rw [isSafe, hn]
  simp only [Bool.not_false, Bool.and_true, Bool.or_eq_true, decide_eq_true_eq]
  exact Or.inl (by omega)

theorem isSafe_of_isPlain {c : Char} (h : IsPlain c) : isSafe c = true :=
  isSafe_of_le h.2

theorem isPlain_of_isSpelling {c : Char} (h : IsSpelling c) : IsPlain c := by
  rcases h with h | h
  · rw [Char.isAlphanum, Bool.or_eq_true] at h
    exact h.elim isPlain_of_isAlpha isPlain_of_isDigit
  · revert h
    revert c
    decide

/-- Every character of a safe form is safe. -/
theorem isSafe_of_mem_sanitize {t : Text} {d : Char} (h : d ∈ sanitize t) : isSafe d = true := by
  rw [sanitize_eq_flatMap] at h
  obtain ⟨c, -, hd⟩ := List.mem_flatMap.1 h
  cases hc : isSafe c with
  | true =>
      rw [safeForm_eq_self hc, List.mem_singleton] at hd
      rw [hd]
      exact hc
  | false => exact isSafe_of_isPlain (isPlain_of_isSpelling (isSpelling_of_mem_safeForm hc hd))

/-- A text of safe characters is its own safe form. -/
theorem sanitize_eq_self {t : Text} (h : ∀ c ∈ t, isSafe c = true) : sanitize t = t := by
  rw [sanitize_eq_flatMap]
  induction t with
  | nil => rfl
  | cons c t ih =>
      rw [List.flatMap_cons, safeForm_eq_self (h c (by simp)),
        ih (fun d hd => h d (List.mem_cons_of_mem c hd))]
      rfl

/-- A character that no spelling is made with is in a safe form only if it was there before. -/
theorem mem_of_mem_sanitize {t : Text} {d : Char} (hd : ¬ IsSpelling d) (h : d ∈ sanitize t) :
    d ∈ t := by
  rw [sanitize_eq_flatMap] at h
  obtain ⟨c, hc, hdc⟩ := List.mem_flatMap.1 h
  cases hs : isSafe c with
  | true =>
      rw [safeForm_eq_self hs, List.mem_singleton] at hdc
      rw [hdc]
      exact hc
  | false => exact absurd (isSpelling_of_mem_safeForm hs hdc) hd

/-! ## Marks -/

/-- Making a text safe puts no mark at its beginning that has none of the characters that spellings
begin with.  The characters may be changed on both sides by a map that leaves those alone. -/
theorem isPrefix_map_of_sanitize {f : Char → Char} (hf : ∀ d ∈ spellingHeads, f d = d) {mark : Text}
    (hm : ∀ c ∈ mark, c ∉ spellingHeads) {l t : Text} (h : mark <+: (sanitize l ++ t).map f) :
    mark <+: (l ++ t).map f := by
  induction l generalizing mark with
  | nil => exact h
  | cons c l ih =>
      cases mark with
      | nil => exact List.nil_prefix
      | cons m mark =>
          rw [sanitize_cons, List.append_assoc] at h
          rcases safeForm_cases c with hs | ⟨-, d, hd, s, hs⟩
          · rw [hs, List.singleton_append, List.map_cons, List.cons_prefix_cons] at h
            rw [List.cons_append, List.map_cons, List.cons_prefix_cons]
            exact ⟨h.1, ih (fun e he => hm e (List.mem_cons_of_mem m he)) h.2⟩
          -- a spelling does not begin like the mark
          · rw [hs, List.cons_append, List.map_cons, List.cons_prefix_cons, hf d hd] at h
            refine absurd hd ?_
            rw [← h.1]
            exact hm m (by simp)

theorem isPrefix_of_isPrefix_sanitize {mark : Text} (hm : ∀ c ∈ mark, c ∉ spellingHeads) {t : Text}
    (h : mark <+: sanitize t) : mark <+: t := by
  have hid : ∀ s : Text, (s ++ []).map id = s := by simp
  rw [← hid (sanitize t)] at h
  rw [← hid t]
  exact isPrefix_map_of_sanitize (fun d _ => id_eq d) hm h

/-- Making a text safe brings no mark about that has none of the characters that spellings begin
with and begins with a character that none is made with. -/
theorem infix_of_infix_sanitize {mark : Text} {c : Char} (hc : mark.head? = some c)
    (hs : ¬ IsSpelling c) (hm : ∀ d ∈ mark, d ∉ spellingHeads) {t : Text}
    (h : mark <:+: sanitize t) : mark <:+: t := by
  induction t with
  | nil => exact h
  | cons d t ih =>
      rw [List.infix_cons_iff]
      cases hd : isSafe d with
      | true =>
          rw [sanitize_cons, safeForm_eq_self hd, List.singleton_append, List.infix_cons_iff] at h
          rcases h with h | h
          · refine Or.inl (isPrefix_of_isPrefix_sanitize hm ?_)
            rwa [sanitize_cons, safeForm_eq_self hd, List.singleton_append]
          · exact Or.inr (ih h)
      | false =>
          -- the mark does not begin within a spelling
          have hnone : c ∉ safeForm d := fun hcd => hs (isSpelling_of_mem_safeForm hd hcd)
          rw [sanitize_cons, infix_append_iff (nowhere_of_head hc hnone _)] at h
          exact Or.inr (ih h)

/-! ## Trimmed texts -/

theorem isBlank_of_isSpelling {c : Char} (h : IsSpelling c) : isBlank c = false := by
  have hplain := isPlain_of_isSpelling h
  have hspace : c.toNat ≠ 0x20 := by
    intro hn
    have hc : c = ' ' := by rw [← Char.ofNat_toNat c, hn]
    rw [hc] at h
    revert h
    decide
  rw [IsPlain] at hplain
  simp only [isBlank, Bool.or_eq_false_iff, Bool.and_eq_false_iff, beq_eq_false_iff_ne,
    decide_eq_false_iff_not]
  omega

theorem isBlank_of_mem_safeForm {c d : Char} (hc : isBlank c = false) (hd : d ∈ safeForm c) :
    isBlank d = false := by
  cases hs : isSafe c with
  | true =>
      rw [safeForm_eq_self hs, List.mem_singleton] at hd
      rw [hd]
      exact hc
  | false => exact isBlank_of_isSpelling (isSpelling_of_mem_safeForm hs hd)

/-- A trimmed text has a trimmed safe form. -/
theorem trim_sanitize {t : Text} (h : trim t = t) : trim (sanitize t) = sanitize t := by
  rw [trim_eq_self_iff] at h ⊢
  obtain ⟨hhead, hlast⟩ := h
  rw [sanitize_eq_flatMap]
  constructor
  · intro d hd
    cases t with
    | nil => simp at hd
    | cons c t =>
        rw [List.flatMap_cons, List.head?_append_of_ne_nil _ (safeForm_ne_nil c)] at hd
        exact isBlank_of_mem_safeForm (hhead c rfl) (List.mem_of_head? hd)
  · intro d hd
    cases hl : t.getLast? with
    | none =>
        rw [List.getLast?_eq_none_iff.1 hl] at hd
        simp at hd
    | some c =>
        obtain ⟨s, rfl⟩ := List.getLast?_eq_some_iff.1 hl
        rw [List.flatMap_append, List.flatMap_singleton,
          List.getLast?_append_of_ne_nil _ (safeForm_ne_nil c)] at hd
        exact isBlank_of_mem_safeForm (hlast c hl) (List.mem_of_getLast? hd)

theorem sanitize_ne_nil {t : Text} (h : t ≠ []) : sanitize t ≠ [] := by
  rw [sanitize_eq_flatMap]
  cases t with
  | nil => exact absurd rfl h
  | cons c t => simp [safeForm_ne_nil c]

end Prepress.Surface
