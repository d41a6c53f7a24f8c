/-
# Line feeds and carriage returns

Normalizing leaves no carriage return behind and changes nothing in a text without one.  Two texts
put together can be normalized one by one unless a carriage return at the end of the first meets
a line feed at the beginning of the second.  Writing line feeds as line ends of a platform is
undone by normalizing (`normalizeNewlines_replaceChar`).

A text with line feeds only is read from line to line (`line_induction`).
-/
import Prepress.Proofs.Text.Within
import Prepress.Text.Lines
import Prepress.Text.Search

namespace Prepress.Text

/-! ## Characters of a normalized text -/

theorem normalizeNewlines_cons {c : Char} (h : c ≠ '\r') (t : Text) :
    normalizeNewlines (c :: t) = c :: normalizeNewlines t := by
  rw [normalizeNewlines] <;> simp [h]

theorem normalizeNewlines_ne_nil {t : Text} (h : t ≠ []) : normalizeNewlines t ≠ [] := by
  fun_cases normalizeNewlines t with
  | case1 => exact absurd rfl h
  | case2 t => simp
  | case3 t _ => simp
  | case4 c t _ _ => simp

/-- A carriage return that no line feed follows becomes one. -/
theorem normalizeNewlines_return {t : Text} (h : t.head? ≠ some '\n') :
    normalizeNewlines ('\r' :: t) = '\n' :: normalizeNewlines t := by
  rw [normalizeNewlines]
  intro s hs
  rw [hs] at h
  exact h rfl

/-- A normalized text has no carriage return. -/
theorem not_mem_normalizeNewlines (t : Text) : '\r' ∉ normalizeNewlines t := by
  fun_induction normalizeNewlines t with
  | case1 => simp
  | case2 t ih => simpa using ih
  | case3 t _ ih => simpa using ih
  | case4 c t _ hc ih =>
      rw [List.mem_cons, not_or]
      exact ⟨fun h => hc h.symm, ih⟩

/-- Normalizing brings in nothing but line feeds. -/
theorem mem_of_mem_normalizeNewlines {c : Char} {t : Text} (h : c ∈ normalizeNewlines t)
    (hc : c ≠ '\n') : c ∈ t := by
  fun_induction normalizeNewlines t with
  | case1 => simp at h
  | case2 t ih =>
      rcases List.mem_cons.1 h with h | h
      · exact absurd h hc
      · exact List.mem_cons_of_mem _ (List.mem_cons_of_mem _ (ih h))
  | case3 t _ ih =>
      rcases List.mem_cons.1 h with h | h
      · exact absurd h hc
      · exact List.mem_cons_of_mem _ (ih h)
  | case4 d t _ _ ih =>
      rcases List.mem_cons.1 h with h | h
      · rw [h]
        simp
      · exact List.mem_cons_of_mem _ (ih h)

/-! ## Texts put together -/

/-- A text without carriage returns is normalized already. -/
theorem normalizeNewlines_append_of_not_mem {a : Text} (h : '\r' ∉ a) (t : Text) :
    normalizeNewlines (a ++ t) = a ++ normalizeNewlines t := by
  induction a with
  | nil => rfl
  | cons c a ih =>
      rw [List.mem_cons, not_or] at h
      rw [List.cons_append, normalizeNewlines_cons (fun hc => h.1 hc.symm), ih h.2,
        List.cons_append]

theorem normalizeNewlines_eq_self {t : Text} (h : '\r' ∉ t) : normalizeNewlines t = t := by
  have := normalizeNewlines_append_of_not_mem h []
  rwa [List.append_nil, normalizeNewlines, List.append_nil] at this

/-- No line end is torn apart before a character that is not a line feed. -/
theorem normalizeNewlines_append_cons {c : Char} (hc : c ≠ '\n') (a t : Text) :
    normalizeNewlines (a ++ c :: t) = normalizeNewlines a ++ normalizeNewlines (c :: t) := by
  fun_induction normalizeNewlines a with
  | case1 => rfl
  | case2 a ih =>
      rw [List.cons_append, List.cons_append, normalizeNewlines, ih]
      rfl
  | case3 a ha ih =>
      rw [List.cons_append, normalizeNewlines, ih]
      · rfl
      · -- a carriage return at the end of the first text meets no line feed
        intro s hs
        cases a with
        | nil => exact hc (List.cons.inj hs).1
        | cons d a => exact ha a (by rw [(List.cons.inj hs).1])
  | case4 d a _ hd ih =>
      rw [List.cons_append, normalizeNewlines_cons hd, ih]
      rfl

/-- A line feed after a text ends its last line, and makes one line end with a carriage return at
the end of the text. -/
theorem normalizeNewlines_append_line (a t : Text) :
    ∃ s, normalizeNewlines (a ++ '\n' :: t) = s ++ '\n' :: normalizeNewlines t ∧
      (normalizeNewlines a = s ∨ normalizeNewlines a = s ++ ['\n']) := by
  fun_induction normalizeNewlines a with
  | case1 =>
      refine ⟨[], ?_, Or.inl rfl⟩
      rw [List.nil_append, normalizeNewlines_cons (by decide), List.nil_append]
  | case2 a ih =>
      obtain ⟨s, hs, ha⟩ := ih
      refine ⟨'\n' :: s, ?_, ?_⟩
      · rw [List.cons_append, List.cons_append, normalizeNewlines, hs, List.cons_append]
      · exact ha.imp (congrArg _) (congrArg _)
  | case3 a hr ih =>
      cases a with
      | nil =>
          -- the carriage return and the line feed are one line end
          exact ⟨[], rfl, Or.inr rfl⟩
      | cons d a =>
          obtain ⟨s, hs, ha⟩ := ih
          refine ⟨'\n' :: s, ?_, ?_⟩
          · rw [List.cons_append, normalizeNewlines, hs, List.cons_append]
            intro b hb
            exact hr a (by rw [(List.cons.inj hb).1])
          · exact ha.imp (congrArg _) (congrArg _)
  | case4 c a _ hc ih =>
      obtain ⟨s, hs, ha⟩ := ih
      refine ⟨c :: s, ?_, ?_⟩
      · rw [List.cons_append, normalizeNewlines_cons hc, hs, List.cons_append]
      · exact ha.imp (congrArg _) (congrArg _)

/-- A mark with no line end in it that stands in a text stands in the normalized text. -/
theorem infix_normalizeNewlines {mark t : Text} (hr : '\r' ∉ mark) (hn : '\n' ∉ mark)
    (h : mark <:+: t) : mark <:+: normalizeNewlines t := by
  obtain ⟨a, b, rfl⟩ := h
  cases mark with
  | nil => exact List.nil_infix
  | cons c mark =>
      rw [List.mem_cons, not_or] at hn
      rw [List.append_assoc, List.cons_append,
        normalizeNewlines_append_cons (fun hc => hn.1 hc.symm), ← List.cons_append,
        normalizeNewlines_append_of_not_mem hr, ← List.append_assoc]
      exact List.infix_append _ _ _

/-! ## The line ends of a platform -/

/-- Line feeds written as carriage returns with line feeds become line feeds again. -/
theorem normalizeNewlines_replaceChar {t : Text} (h : '\r' ∉ t) :
    normalizeNewlines (replaceChar '\n' ['\r', '\n'] t) = t := by
  induction t with
  | nil => rfl
  | cons c t ih =>
      rw [List.mem_cons, not_or] at h
      rw [replaceChar, List.flatMap_cons]
      by_cases hc : c = '\n'
      · rw [if_pos hc, hc]
        show '\n' :: normalizeNewlines (replaceChar '\n' ['\r', '\n'] t) = '\n' :: t
        rw [ih h.2]
      · rw [if_neg hc]
        show normalizeNewlines (c :: replaceChar '\n' ['\r', '\n'] t) = c :: t
        rw [normalizeNewlines_cons (fun he => h.1 he.symm), ih h.2]

/-- Line feeds after lines without any become line ends after them. -/
theorem replaceChar_lines {ls : List Text} (h : ∀ l ∈ ls, '\n' ∉ l) (lineEnd : Text) :
    replaceChar '\n' lineEnd (ls.flatMap (· ++ ['\n'])) = ls.flatMap (· ++ lineEnd) := by
  have hkeep : ∀ l, '\n' ∉ l → replaceChar '\n' lineEnd l = l := by
    intro l hl
    induction l with
    | nil => rfl
    | cons c l ih =>
        rw [List.mem_cons, not_or] at hl
        rw [replaceChar, List.flatMap_cons, if_neg (fun hc => hl.1 hc.symm)]
        show c :: replaceChar '\n' lineEnd l = c :: l
        rw [ih hl.2]
  have hfeed : replaceChar '\n' lineEnd ['\n'] = lineEnd := by
    rw [replaceChar, List.flatMap_singleton, if_pos rfl]
  induction ls with
  | nil => rfl
  | cons l ls ih =>
      rw [List.flatMap_cons, List.flatMap_cons, replaceChar_append, replaceChar_append, hfeed,
        hkeep l (h l (by simp)), ih fun k hk => h k (List.mem_cons_of_mem l hk)]

/-! ## The edges of a line -/

/-- What begins with a text begins at the end of a line: the text is empty or begins with a line
feed. -/
def AtLineEnd (t : Text) : Prop := ∀ c, t.head? = some c → c = '\n'

/-- What ends with a text ends at the beginning of a line: the text is empty or ends with a line
feed. -/
def AtLineStart (t : Text) : Prop := ∀ c, t.getLast? = some c → c = '\n'

instance (t : Text) : Decidable (AtLineEnd t) :=
  decidable_of_iff (t.head?.all (· == '\n') = true) (by simp [AtLineEnd, Option.all_eq_true])

instance (t : Text) : Decidable (AtLineStart t) :=
  decidable_of_iff (t.getLast?.all (· == '\n') = true) (by simp [AtLineStart, Option.all_eq_true])

theorem atLineEnd_cons (t : Text) : AtLineEnd ('\n' :: t) := by
  intro c hc
  simpa using hc.symm

theorem atLineEnd_nil : AtLineEnd [] := by
  intro c hc
  simp at hc

/-- Every text is a single line, or a line with a line feed and a shorter text after it. -/
@[elab_as_elim]
theorem line_induction {motive : Text → Prop} (last : ∀ l, '\n' ∉ l → motive l)
    (line : ∀ l t, '\n' ∉ l → motive t → motive (l ++ '\n' :: t)) (t : Text) : motive t := by
  by_cases h : '\n' ∈ t
  · obtain ⟨l, s, hs, hl⟩ := List.eq_append_cons_of_mem h
    have hlen : s.length < t.length := by
      rw [hs, List.length_append, List.length_cons]
      omega
    rw [hs]
    exact line l s hl (line_induction last line s)
  · exact last t h
termination_by t.length

/-- A text without a mark is its only piece. -/
theorem splitOn_last {mark : Char} {l : Text} (hl : mark ∉ l) : splitOn mark l = [l] := by
  induction l with
  | nil => rfl
  | cons c l ih =>
      rw [List.mem_cons, not_or] at hl
      rw [splitOn, if_neg fun h => hl.1 h.symm, ih hl.2]
      rfl

/-- No piece between marks has the mark. -/
theorem not_mem_of_mem_splitOn {mark : Char} {t l : Text} (h : l ∈ splitOn mark t) : mark ∉ l := by
  have hpieces : ∀ p ∈ splitOn mark t, Within (· ≠ mark) p := by
    clear h
    induction t with
    | nil => exact List.forall_mem_singleton.2 within_nil
    | cons c t ih =>
        rw [splitOn]
        split
        · exact List.forall_mem_cons.2 ⟨within_nil, ih⟩
        · next hc => exact within_consLine hc ih
  exact (hpieces l h).not_mem (by simp)

/-- The pieces before a mark and the pieces after it are the pieces of the whole text. -/
theorem splitOn_append_cons (mark : Char) (a b : Text) :
    splitOn mark (a ++ mark :: b) = splitOn mark a ++ splitOn mark b := by
  induction a with
  | nil =>
      show splitOn mark (mark :: b) = [] :: splitOn mark b
      rw [splitOn, if_pos rfl]
  | cons c a ih =>
      rw [List.cons_append, splitOn, splitOn, ih]
      by_cases hc : c = mark
      · rw [if_pos hc, if_pos hc, List.cons_append]
      · rw [if_neg hc, if_neg hc]
        obtain ⟨l, ls, hl⟩ := List.exists_cons_of_ne_nil (splitOn_ne_nil mark a)
        rw [hl]
        rfl

/-- The first piece of a text goes up to the first mark. -/
theorem splitOn_line {mark : Char} {l : Text} (hl : mark ∉ l) (t : Text) :
    splitOn mark (l ++ mark :: t) = l :: splitOn mark t := by
  rw [splitOn_append_cons, splitOn_last hl]
  rfl

/-- What a condition drops of a line does not depend on what follows, if the condition fails for
line feeds. -/
theorem dropWhile_append_of_atLineEnd {p : Char → Bool} (hp : p '\n' = false) (l : Text) {t : Text}
    (ht : AtLineEnd t) : (l ++ t).dropWhile p = l.dropWhile p ++ t := by
  cases t with
  | nil => rw [List.append_nil, List.append_nil]
  | cons c t => exact dropWhile_append_cons (by rw [ht c rfl, hp]) l t

theorem takeWhile_append_of_atLineEnd {p : Char → Bool} (hp : p '\n' = false) (l : Text) {t : Text}
    (ht : AtLineEnd t) : (l ++ t).takeWhile p = l.takeWhile p := by
  rw [List.takeWhile_append]
  split
  · next h =>
      have hl : l.takeWhile p = l := (List.takeWhile_prefix p).eq_of_length h
      rw [hl]
      cases t with
      | nil => rw [List.takeWhile_nil, List.append_nil]
      | cons c t => rw [List.takeWhile_cons_of_neg (by simp [ht c rfl, hp]), List.append_nil]
  · rfl

end Prepress.Text
