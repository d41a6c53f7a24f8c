/-
# Occurrences of a mark

What it means for a mark to begin a text, to occur in it, and to occur in it for the first time.
Searching is tied to the relations of beginning and lying within (`<+:` and `<:+:`):

* `occursIn_iff` : a mark is found exactly when the text holds it somewhere;
* `cut?_eq_some_iff` : a text is cut at the first place where the mark begins;
* `replace_eq_self` : replacing a mark that does not occur changes nothing.

A mark cannot reach from one text into the next when its first or its last character is missing
from one of them; this is what lets a document be searched part by part.
-/
import Prepress.Text.Search

namespace Prepress.Text

/-! ## The beginning of a text -/

/-- A mark can be taken off a text exactly when the text begins with it. -/
theorem after?_isSome_iff {lead t : Text} : (after? lead t).isSome = true ↔ lead <+: t := by
  rw [Option.isSome_iff_exists]
  constructor
  · rintro ⟨r, hr⟩
    exact ⟨r, (after?_eq_some.1 hr).symm⟩
  · rintro ⟨r, hr⟩
    exact ⟨r, after?_eq_some.2 hr.symm⟩

theorem after?_eq_none_iff {lead t : Text} : after? lead t = none ↔ ¬ lead <+: t := by
  rw [← after?_isSome_iff, Bool.not_eq_true, Option.isSome_eq_false_iff, Option.isNone_iff_eq_none]

/-- The mark taken off a text that begins with it leaves the rest. -/
theorem after?_append (lead t : Text) : after? lead (lead ++ t) = some t :=
  after?_eq_some.2 rfl

theorem startsWith_iff {lead t : Text} : startsWith lead t = true ↔ lead <+: t :=
  after?_isSome_iff

/-- A text begins with the first character of what it begins with. -/
theorem head?_eq_of_isPrefix {mark t : Text} (h : mark <+: t) (hm : mark ≠ []) :
    t.head? = mark.head? := by
  obtain ⟨r, rfl⟩ := h
  cases mark with
  | nil => exact absurd rfl hm
  | cons c mark => rfl

/-! ## What begins nowhere in a text -/

/-- Nowhere in `t` begins something with the property `p`, even if it reaches into the `rest`
that follows. -/
def Nowhere (p : Text → Prop) (t rest : Text) : Prop :=
  ∀ u v, t = u ++ v → v ≠ [] → ¬ p (v ++ rest)

variable {p : Text → Prop}

theorem nowhere_nil (p : Text → Prop) (rest : Text) : Nowhere p [] rest := by
  intro u v h hv
  exact absurd (List.append_eq_nil_iff.1 h.symm).2 hv

/-- The first character and what follows it can be looked at one after the other. -/
theorem nowhere_cons {t rest : Text} {c : Char} :
    Nowhere p (c :: t) rest ↔ ¬ p (c :: (t ++ rest)) ∧ Nowhere p t rest := by
  constructor
  · intro h
    refine ⟨h [] (c :: t) rfl (by simp), ?_⟩
    intro u v huv hv
    exact h (c :: u) v (by rw [huv, List.cons_append]) hv
  · rintro ⟨h0, h⟩ u v huv hv
    cases u with
    | nil =>
        rw [List.nil_append] at huv
        rw [← huv]
        exact h0
    | cons d u =>
        rw [List.cons_append, List.cons.injEq] at huv
        exact h u v huv.2 hv

/-- Two texts can be looked at one after the other. -/
theorem nowhere_append {a b rest : Text} :
    Nowhere p (a ++ b) rest ↔ Nowhere p a (b ++ rest) ∧ Nowhere p b rest := by
  induction a with
  | nil => simp [nowhere_nil]
  | cons c a ih =>
      rw [List.cons_append, nowhere_cons, nowhere_cons, ih, and_assoc, List.append_assoc]

/-- What has a property that begins nowhere has no other property that needs it. -/
theorem Nowhere.imp {q : Text → Prop} {t rest : Text} (h : Nowhere p t rest)
    (hq : ∀ s, q s → p s) : Nowhere q t rest := by
  intro u v huv hv hp
  exact h u v huv hv (hq _ hp)

/-- A text without the first character of a mark is no place for the mark to begin. -/
theorem nowhere_of_head {mark t : Text} {c : Char} (hc : mark.head? = some c) (h : c ∉ t)
    (rest : Text) : Nowhere (mark <+: ·) t rest := by
  intro u v huv hv hp
  cases v with
  | nil => exact hv rfl
  | cons d v =>
      cases mark with
      | nil => simp at hc
      | cons e mark =>
          simp only [List.head?_cons, Option.some.injEq] at hc
          rw [List.cons_append, List.cons_prefix_cons] at hp
          refine h ?_
          rw [huv, ← hc, hp.1]
          simp

/-- From no place in a text on do the text and a mark agree as far as both go. -/
def isApart (mark : Text) : Text → Bool
  | [] => true
  | c :: t => !mark.isPrefixOf (c :: t) && !(c :: t).isPrefixOf mark && isApart mark t

/-- In a text that is apart from a mark the mark begins nowhere, whatever follows. -/
theorem nowhere_of_isApart {mark t : Text} (h : isApart mark t = true) (rest : Text) :
    Nowhere (mark <+: ·) t rest := by
  induction t with
  | nil => exact nowhere_nil _ _
  | cons c t ih =>
      rw [isApart, Bool.and_eq_true, Bool.and_eq_true, Bool.not_eq_true', Bool.not_eq_true',
        ← Bool.not_eq_true, ← Bool.not_eq_true, List.isPrefixOf_iff_prefix,
        List.isPrefixOf_iff_prefix] at h
      obtain ⟨⟨h1, h2⟩, h3⟩ := h
      refine nowhere_cons.2 ⟨?_, ih h3⟩
      intro hp
      rw [← List.cons_append] at hp
      rcases List.prefix_or_prefix_of_prefix hp (List.prefix_append (c :: t) rest) with h | h
      · exact h1 h
      · exact h2 h

/-! ## The first occurrence -/

/-- A text is cut at the first place where the mark begins. -/
theorem cut?_eq_some_iff {mark t before r : Text} (hm : mark ≠ []) :
    cut? mark t = some (before, r) ↔
      t = before ++ mark ++ r ∧ Nowhere (mark <+: ·) before (mark ++ r) := by
  induction t generalizing before r with
  | nil =>
      rw [cut?, if_neg (by simpa using hm)]
      simp [hm]
  | cons c t ih =>
      rw [cut?]
      cases ha : after? mark (c :: t) with
      | some s =>
          rw [after?_eq_some] at ha
          constructor
          · intro h
            simp only [Option.some.injEq, Prod.mk.injEq] at h
            rw [← h.1, ← h.2]
            exact ⟨ha, nowhere_nil _ _⟩
          · rintro ⟨h, hb⟩
            cases before with
            | nil =>
                have hs : s = r := List.append_cancel_left (by rw [← ha, h, List.nil_append])
                rw [hs]
            | cons d before =>
                refine absurd ⟨s, ?_⟩ (nowhere_cons.1 hb).1
                rw [← ha, h, List.append_assoc, List.cons_append]
      | none =>
          rw [after?_eq_none_iff] at ha
          constructor
          · intro h
            obtain ⟨⟨b, s⟩, hb, he⟩ := Option.map_eq_some_iff.1 h
            simp only [Prod.mk.injEq] at he
            rw [← he.1, ← he.2]
            obtain ⟨ht, hn⟩ := ih.1 hb
            refine ⟨by rw [ht]; rfl, nowhere_cons.2 ⟨?_, hn⟩⟩
            rw [← List.append_assoc, ← ht]
            exact ha
          · rintro ⟨h, hb⟩
            cases before with
            | nil => exact absurd ⟨r, by rw [h, List.nil_append]⟩ ha
            | cons d before =>
                rw [List.cons_append, List.cons_append, List.cons.injEq] at h
                rw [ih.2 ⟨h.2, (nowhere_cons.1 hb).2⟩, h.1]
                rfl

/-! ## Occurrences anywhere -/

/-- A mark is found in a text exactly when the text holds it. -/
theorem occursIn_iff {mark t : Text} : occursIn mark t = true ↔ mark <:+: t := by
  rw [occursIn]
  induction t with
  | nil =>
      rw [cut?]
      cases mark <;> simp
  | cons c t ih =>
      rw [cut?, List.infix_cons_iff]
      cases ha : after? mark (c :: t) with
      | some s =>
          have h : mark <+: c :: t := after?_isSome_iff.1 (by rw [ha]; rfl)
          simp [h]
      | none =>
          rw [after?_eq_none_iff] at ha
          simpa [ha] using ih

theorem occursIn_eq_false_iff {mark t : Text} : occursIn mark t = false ↔ ¬ mark <:+: t := by
  rw [← occursIn_iff, Bool.not_eq_true]

/-- A mark that is not in a text begins nowhere in it, as long as it does not reach beyond its
end. -/
theorem nowhere_of_not_isInfix {mark t : Text} (h : ¬ mark <:+: t) :
    Nowhere (mark <+: ·) t [] := by
  intro u v huv _ hp
  rw [List.append_nil] at hp
  refine h (hp.isInfix.trans ?_)
  rw [huv]
  exact (List.suffix_append u v).isInfix

/-- A mark does not reach over a character that it does not have. -/
theorem isPrefix_of_isPrefix_append_cons {mark a rest : Text} {c : Char} (hc : c ∉ mark)
    (h : mark <+: a ++ c :: rest) : mark <+: a := by
  rcases List.prefix_or_prefix_of_prefix h (List.prefix_append a (c :: rest)) with hm | ⟨m, hm⟩
  · exact hm
  · rw [← hm, List.prefix_append_right_inj] at h
    cases m with
    | nil => exact ⟨[], by rw [← hm, List.append_nil, List.append_nil]⟩
    | cons e m =>
        refine absurd ?_ hc
        rw [← hm, ← (List.cons_prefix_cons.1 h).1]
        simp

/-- A mark that is not in a text begins nowhere in it, if a character follows that the mark does not
have. -/
theorem nowhere_append_singleton {mark a : Text} {c : Char} (hc : c ∉ mark)
    (h : ¬ mark <:+: a) (rest : Text) : Nowhere (mark <+: ·) (a ++ [c]) rest := by
  intro u v huv hv hp
  obtain ⟨w, d, rfl⟩ : ∃ w d, v = w ++ [d] :=
    ⟨v.dropLast, v.getLast hv, (List.dropLast_concat_getLast hv).symm⟩
  rw [← List.append_assoc] at huv
  obtain ⟨ha, hd⟩ := List.append_inj' huv rfl
  refine h ?_
  rw [ha]
  refine List.IsInfix.trans ?_ (List.suffix_append u w).isInfix
  rw [List.append_assoc, ← hd, List.singleton_append] at hp
  exact (isPrefix_of_isPrefix_append_cons hc hp).isInfix

/-- A mark that begins nowhere in a text lies in the rest if it lies in both together. -/
theorem infix_append_iff {mark a b : Text} (h : Nowhere (mark <+: ·) a b) :
    mark <:+: a ++ b ↔ mark <:+: b := by
  constructor
  · intro hm
    induction a with
    | nil => exact hm
    | cons c a ih =>
        rw [nowhere_cons] at h
        rw [List.cons_append, List.infix_cons_iff] at hm
        rcases hm with hm | hm
        · exact absurd hm h.1
        · exact ih h.2 hm
  · intro hm
    exact hm.trans (List.suffix_append a b).isInfix

/-- A mark whose last character is missing from a text does not reach into it. -/
theorem infix_of_infix_append {mark a b : Text} {c : Char} (hc : mark.getLast? = some c)
    (h : c ∉ b) (hm : mark <:+: a ++ b) : mark <:+: a := by
  -- read backwards, the mark would have to begin in a text without its first character
  have hr := List.reverse_infix.2 hm
  rw [List.reverse_append] at hr
  have hn : Nowhere (mark.reverse <+: ·) b.reverse a.reverse :=
    nowhere_of_head (by rw [List.head?_reverse, hc]) (by simpa using h) _
  exact List.reverse_infix.1 ((infix_append_iff hn).1 hr)

/-! ## Replacing -/

/-- What a replaced mark covers is passed over. -/
theorem replaceFrom_append (old new a t : Text) :
    replaceFrom old new a.length (a ++ t) = replaceFrom old new 0 t := by
  induction a with
  | nil => rfl
  | cons c a ih => exact ih

/-- A mark at the beginning of a text is replaced, and then those after it. -/
theorem replaceFrom_mark {old : Text} (h : old ≠ []) (new t : Text) :
    replaceFrom old new 0 (old ++ t) = new ++ replaceFrom old new 0 t := by
  cases old with
  | nil => exact absurd rfl h
  | cons c old =>
      have hstart : startsWith (c :: old) (c :: (old ++ t)) = true :=
        startsWith_iff.2 (List.prefix_append (c :: old) t)
      rw [List.cons_append, replaceFrom, if_pos hstart]
      exact congrArg _ (replaceFrom_append (c :: old) new old t)

/-- A character where no mark begins is kept. -/
theorem replaceFrom_cons {old : Text} {c : Char} {t : Text} (h : ¬ old <+: c :: t) (new : Text) :
    replaceFrom old new 0 (c :: t) = c :: replaceFrom old new 0 t := by
  rw [replaceFrom, if_neg (by rw [startsWith_iff]; exact h)]

theorem replaceFrom_eq_self {old : Text} (new : Text) {t : Text} (h : ¬ old <:+: t) :
    replaceFrom old new 0 t = t := by
  induction t with
  | nil => rfl
  | cons c t ih =>
      rw [List.infix_cons_iff, not_or] at h
      rw [replaceFrom_cons h.1, ih h.2]

/-- Replacing a mark that does not occur changes nothing. -/
theorem replace_eq_self {old : Text} (new : Text) {t : Text} (h : occursIn old t = false) :
    replace old new t = t := by
  rw [occursIn_eq_false_iff] at h
  cases old with
  | nil => exact absurd (List.nil_infix) h
  | cons c old => exact replaceFrom_eq_self new h

end Prepress.Text
