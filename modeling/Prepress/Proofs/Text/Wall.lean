/-
# Walls

A mark does not reach over a character that it does not have.  So a text that begins and ends with
such characters keeps a mark apart: the mark is found before the text, in it or after it
(`IsEnclosed.infix_iff`), and if it is not in it, the text is a wall.

* `infix_flatMap_iff` : writing walls for characters that a mark does not have neither brings the
  mark about nor takes it away;
* `not_infix_replace` : when a mark is replaced by a wall, it is nowhere left.
-/
import Mathlib.Data.List.Basic
import Prepress.Proofs.Text.Newlines
import Prepress.Proofs.Text.Occurrence
import Prepress.Proofs.Text.Within

namespace Prepress.Text

variable {mark : Text}

/-! ## A character that is not in a mark -/

/-- A mark is found on one side or the other of a character that it does not have. -/
theorem infix_append_cons_iff {c : Char} (hc : c ∉ mark) (a b : Text) :
    mark <:+: a ++ c :: b ↔ mark <:+: a ∨ mark <:+: b := by
  constructor
  · intro h
    by_cases ha : mark <:+: a
    · exact Or.inl ha
    · -- an occurrence that begins before the character would have to reach over it
      rw [← List.singleton_append, ← List.append_assoc,
        infix_append_iff (nowhere_append_singleton hc ha b)] at h
      exact Or.inr h
  · rintro (h | h)
    · exact h.trans (List.prefix_append a _).isInfix
    · exact h.trans ((List.suffix_cons c b).trans (List.suffix_append a _)).isInfix

theorem infix_cons_iff {c : Char} (hc : c ∉ mark) (hm : mark ≠ []) (b : Text) :
    mark <:+: c :: b ↔ mark <:+: b := by
  rw [← List.nil_append (c :: b), infix_append_cons_iff hc, List.infix_nil]
  simp [hm]

theorem infix_concat_iff {c : Char} (hc : c ∉ mark) (hm : mark ≠ []) (a : Text) :
    mark <:+: a ++ [c] ↔ mark <:+: a := by
  rw [infix_append_cons_iff hc, List.infix_nil]
  simp [hm]

/-! ## Lines -/

/-- A mark is found in one of some lines. -/
def InLines (mark : Text) (ls : List Text) : Prop := ∃ l ∈ ls, mark <:+: l

@[simp]
theorem inLines_nil : ¬ InLines mark [] := by
  simp [InLines]

@[simp]
theorem inLines_cons {l : Text} {ls : List Text} :
    InLines mark (l :: ls) ↔ mark <:+: l ∨ InLines mark ls := by
  simp [InLines]

@[simp]
theorem inLines_append {ls ks : List Text} :
    InLines mark (ls ++ ks) ↔ InLines mark ls ∨ InLines mark ks := by
  simp only [InLines, List.mem_append, or_and_right, exists_or]

theorem inLines_map {β : Type} {f : β → Text} {l : List β} :
    InLines mark (l.map f) ↔ ∃ b ∈ l, mark <:+: f b := by
  simp [InLines]

theorem inLines_flatMap {β : Type} {f : β → List Text} {l : List β} :
    InLines mark (l.flatMap f) ↔ ∃ b ∈ l, InLines mark (f b) := by
  constructor
  · rintro ⟨t, ht, hi⟩
    obtain ⟨b, hb, htb⟩ := List.mem_flatMap.1 ht
    exact ⟨b, hb, t, htb, hi⟩
  · rintro ⟨b, hb, t, htb, hi⟩
    exact ⟨t, List.mem_flatMap.2 ⟨b, hb, htb⟩, hi⟩

/-- A mark without line feeds is found in joined lines when it is found in one of them. -/
theorem infix_join_iff (hn : '\n' ∉ mark) (hm : mark ≠ []) (ls : List Text) :
    mark <:+: join ['\n'] ls ↔ InLines mark ls := by
  induction ls with
  | nil => simp [join, hm]
  | cons l ls ih =>
      cases ls with
      | nil => simp [join]
      | cons k ks =>
          rw [join_cons _ l (List.cons_ne_nil k ks), List.append_assoc, List.singleton_append,
            infix_append_cons_iff hn, ih, ← inLines_cons]

/-! ## Enclosed texts and walls -/

/-- A text begins and ends with characters that a mark does not have. -/
def IsEnclosed (mark w : Text) : Prop :=
  (∃ c s, w = c :: s ∧ c ∉ mark) ∧ ∃ s c, w = s ++ [c] ∧ c ∉ mark

/-- A mark does not reach over the ends of an enclosed text. -/
theorem IsEnclosed.infix_iff {w : Text} (h : IsEnclosed mark w) (hm : mark ≠ []) (a b : Text) :
    mark <:+: a ++ w ++ b ↔ mark <:+: a ∨ mark <:+: w ∨ mark <:+: b := by
  obtain ⟨⟨c, s, hw, hc⟩, r, d, hw', hd⟩ := h
  have hbefore : mark <:+: a ++ w ↔ mark <:+: a ∨ mark <:+: w := by
    rw [hw, infix_append_cons_iff hc, infix_cons_iff hc hm]
  calc mark <:+: a ++ w ++ b ↔ mark <:+: a ++ r ++ d :: b := by
        rw [hw']
        simp only [List.append_assoc, List.singleton_append]
    _ ↔ mark <:+: a ++ r ∨ mark <:+: b := infix_append_cons_iff hd _ b
    _ ↔ mark <:+: a ++ w ∨ mark <:+: b := by
        rw [hw', ← List.append_assoc, infix_concat_iff hd hm]
    _ ↔ _ := by rw [hbefore, or_assoc]

/-- An enclosed text without the mark in it. -/
structure IsWall (mark w : Text) : Prop where
  isEnclosed : IsEnclosed mark w
  not_isInfix : ¬ mark <:+: w

/-- There is no wall for the empty mark. -/
theorem IsWall.ne_nil {w : Text} (h : IsWall mark w) : mark ≠ [] := by
  intro hm
  exact h.not_isInfix (by rw [hm]; exact List.nil_infix)

/-- A mark is found on one side or the other of a wall. -/
theorem IsWall.infix_iff {w : Text} (h : IsWall mark w) (a b : Text) :
    mark <:+: a ++ w ++ b ↔ mark <:+: a ∨ mark <:+: b := by
  rw [h.isEnclosed.infix_iff h.ne_nil]
  simp [h.not_isInfix]

theorem IsWall.infix_append_left_iff {w : Text} (h : IsWall mark w) (b : Text) :
    mark <:+: w ++ b ↔ mark <:+: b := by
  rw [← List.nil_append w, h.infix_iff, List.infix_nil]
  simp [h.ne_nil]

theorem IsWall.infix_append_right_iff {w : Text} (h : IsWall mark w) (a : Text) :
    mark <:+: a ++ w ↔ mark <:+: a := by
  rw [← List.append_nil (a ++ w), h.infix_iff, List.infix_nil]
  simp [h.ne_nil]

/-- Between two walls a mark is found just where it is found in the text between them. -/
theorem IsWall.infix_between_iff {v w : Text} (hv : IsWall mark v) (hw : IsWall mark w)
    (t : Text) : mark <:+: v ++ t ++ w ↔ mark <:+: t := by
  rw [hw.infix_append_right_iff, hv.infix_append_left_iff]

/-! ## Passes over a text -/

/-- A pass that keeps characters, and writes walls for some that a mark does not have, neither
brings the mark about nor takes it away. -/
theorem infix_flatMap_iff {f : Char → Text}
    (h : ∀ c, f c = [c] ∨ (c ∉ mark ∧ IsWall mark (f c))) (t : Text) :
    mark <:+: t.flatMap f ↔ mark <:+: t := by
  -- what has been read stands before both texts
  have hall : ∀ a, mark <:+: a ++ t.flatMap f ↔ mark <:+: a ++ t := by
    induction t with
    | nil => exact fun a => Iff.rfl
    | cons c t ih =>
        intro a
        rw [List.flatMap_cons]
        rcases h c with hc | ⟨hc, hw⟩
        · rw [hc, ← List.append_assoc, ih, List.append_assoc, List.singleton_append]
        · have hrest := ih []
          rw [List.nil_append, List.nil_append] at hrest
          rw [← List.append_assoc, hw.infix_iff, infix_append_cons_iff hc, hrest]
  exact hall []

/-- Normalizing line ends neither brings a mark without line ends about nor takes it away. -/
theorem infix_normalizeNewlines_iff (hr : '\r' ∉ mark) (hn : '\n' ∉ mark) (t : Text) :
    mark <:+: normalizeNewlines t ↔ mark <:+: t := by
  refine ⟨?_, infix_normalizeNewlines hr hn⟩
  -- what has been read stands before both texts, up to the last line end
  have hall : ∀ a, mark <:+: a ++ normalizeNewlines t → mark <:+: a ++ t := by
    fun_induction normalizeNewlines t with
    | case1 => exact fun a => id
    | case2 t ih =>
        intro a h
        rw [infix_append_cons_iff hn] at h
        rw [infix_append_cons_iff hr]
        refine h.imp_right fun h => ?_
        exact ih ['\n'] (h.trans (List.suffix_cons '\n' _).isInfix)
    | case3 t _ ih =>
        intro a h
        rw [infix_append_cons_iff hn] at h
        rw [infix_append_cons_iff hr]
        exact h.imp_right (ih [])
    | case4 c t _ _ ih =>
        intro a h
        have := ih (a ++ [c])
        rw [List.append_assoc, List.append_assoc] at this
        exact this h
  exact hall []

/-! ## Replacing a mark -/

/-- What begins a text after replacing began it before, unless it reaches what is put in. -/
theorem prefix_of_prefix_replaceFrom {old new p t : Text} {c : Char}
    (hnew : new.head? = some c) (hc : c ∉ p) (h : p <+: replaceFrom old new 0 t) : p <+: t := by
  induction t generalizing p with
  | nil => exact h
  | cons d t ih =>
      cases p with
      | nil => exact List.nil_prefix
      | cons e p =>
          rw [List.mem_cons, not_or] at hc
          rw [replaceFrom] at h
          split at h
          · -- what is put in begins with a character that the beginning does not have
            obtain ⟨s, rfl⟩ := List.head?_eq_some_iff.1 hnew
            rw [List.cons_append, List.cons_prefix_cons] at h
            exact absurd h.1.symm hc.1
          · rw [List.cons_prefix_cons] at h ⊢
            exact ⟨h.1, ih hc.2 h.2⟩

/-- When a mark is replaced by a wall, it is nowhere left, and it does not arise anew. -/
theorem not_infix_replace {new : Text} (hw : IsWall mark new) (t : Text) :
    ¬ mark <:+: replace mark new t := by
  have hall : ∀ skip, ¬ mark <:+: replaceFrom mark new skip t := by
    obtain ⟨⟨c, s, hnew, hc⟩, -⟩ := hw.isEnclosed
    have hhead : new.head? = some c := by rw [hnew, List.head?_cons]
    have hnil : ¬ mark <:+: [] := fun h => hw.ne_nil (List.infix_nil.1 h)
    induction t with
    | nil => intro skip; cases skip <;> exact hnil
    | cons d t ih =>
        intro skip
        cases skip with
        | succ n => exact ih n
        | zero =>
            rw [replaceFrom]
            split
            · rw [hw.infix_append_left_iff]
              exact ih _
            · next hs =>
                rw [List.infix_cons_iff, not_or]
                refine ⟨?_, ih 0⟩
                intro hp
                -- the mark would have begun here before
                have hkept : mark <+: replaceFrom mark new 0 (d :: t) := by
                  rw [replaceFrom, if_neg hs]
                  exact hp
                exact hs (startsWith_iff.2 (prefix_of_prefix_replaceFrom hhead hc hkept))
  rw [replace, if_neg (by simpa using hw.ne_nil)]
  exact hall 0

end Prepress.Text
