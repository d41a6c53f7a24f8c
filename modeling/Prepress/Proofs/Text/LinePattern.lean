/-
# Patterns of whole lines

A pattern of lines is looked for at the beginnings of lines only, and has to be followed by the end
of a line: a line feed, which belongs to what is read, or the end of the text (`lineWays`).  A
substitution goes from the left and by the first way at each beginning of a line
(`substituteLines`).

* `head?_lineWays_longest` : a run that is to be long is taken whole, if what comes after it begins
  with none of its characters;
* `substituteLines_of_head?` : what is read by the preferred way is replaced, and the substitution
  goes on at the beginning of the next line.
-/
import Prepress.Proofs.Text.Pattern

namespace Prepress.Text

/-! ## Ways to read a line -/

/-- What may be read for the end of a line, and what follows it, the preferred way first: a line
feed, or nothing before a line feed or at the end of the text. -/
def lineEnds : Text → List (Text × Text)
  | [] => [([], [])]
  | c :: t => if c = '\n' then [(['\n'], t), ([], c :: t)] else []

/-- What may be read for the stretches of a pattern and for the end of a line after them, and what
follows, the preferred way first. -/
def lineWays : List Stretch → Text → List (List Text × Text)
  | [], t => (lineEnds t).map fun e => ([e.1], e.2)
  | s :: pattern, t =>
    (s.ways t).flatMap fun r => (lineWays pattern r.2).map fun w => (r.1 :: w.1, w.2)

/-- Substitutes what is put for the stretches read, wherever the pattern is found at the beginning
of a line, after the next `skip` characters.  The text is at the beginning of a line or within
one. -/
def substituteLinesFrom (pattern : List Stretch) (put : List Text → Text) :
    (skip : Nat) → (lineStart : Bool) → Text → Text
  | _, _, [] => []
  | skip + 1, _, c :: t => substituteLinesFrom pattern put skip (c == '\n') t
  | 0, lineStart, c :: t =>
    match if lineStart then (lineWays pattern (c :: t)).head? else none with
    | some (reads, _) =>
      put reads ++ substituteLinesFrom pattern put (reads.flatten.length - 1) (c == '\n') t
    | none => c :: substituteLinesFrom pattern put 0 (c == '\n') t

/-- Substitutes what is put for the stretches read, wherever the pattern is found at the beginning
of a line. -/
def substituteLines (pattern : List Stretch) (put : List Text → Text) (t : Text) : Text :=
  substituteLinesFrom pattern put 0 true t

/-! ## The preferred way -/

section Preferred

variable {p : Char → Bool} {pattern : List Stretch} {t : Text}

theorem lineWays_word (w : Text) (pattern : List Stretch) (t : Text) :
    lineWays (.word w :: pattern) t
      = match after? w t with
        | some rest => (lineWays pattern rest).map fun x => (w :: x.1, x.2)
        | none => [] := by
  rw [lineWays, Stretch.ways]
  cases after? w t with
  | some rest => exact List.flatMap_singleton _ _
  | none => rfl

/-- After a run comes a character of its class, or what comes after the longest run. -/
theorem eq_or_exists_of_mem_runs {run rest : Text} (h : (run, rest) ∈ runs p t) :
    rest = t.dropWhile p ∨ ∃ c s, rest = c :: s ∧ p c = true := by
  rw [← dropWhile_of_mem_runs h]
  cases rest with
  | nil => exact Or.inl rfl
  | cons c s =>
      by_cases hc : p c = true
      · exact Or.inr ⟨c, s, rfl, hc⟩
      · rw [List.dropWhile_cons_of_neg hc]
        exact Or.inl rfl

/-- A run that is to be long is taken whole if what comes after it begins with no character of the
run. -/
theorem head?_lineWays_longest (h : ∀ c s, p c = true → lineWays pattern (c :: s) = []) (t : Text) :
    (lineWays (.longest p :: pattern) t).head?
      = (lineWays pattern (t.dropWhile p)).head?.map fun w => (t.takeWhile p :: w.1, w.2) := by
  refine head?_flatMap_runs (lineWays pattern) (fun run w => (run :: w.1, w.2)) ?_
  intro hnone r hr
  rcases eq_or_exists_of_mem_runs hr with he | ⟨c, s, he, hc⟩
  · rw [he, hnone]
  · rw [he, h c s hc]

/-- What a pattern of lines reads is the beginning of the text. -/
theorem flatten_of_mem_lineWays {reads : List Text} {rest : Text}
    (h : (reads, rest) ∈ lineWays pattern t) : reads.flatten ++ rest = t := by
  induction pattern generalizing t reads with
  | nil =>
      obtain ⟨⟨lineEnd, r⟩, hmem, he⟩ := List.mem_map.1 h
      rw [Prod.mk.injEq] at he
      rw [← he.1, ← he.2, List.flatten_singleton]
      unfold lineEnds at hmem
      split at hmem
      · rw [List.mem_singleton, Prod.mk.injEq] at hmem
        rw [hmem.1, hmem.2]
        rfl
      · split at hmem
        · next hc =>
            simp only [List.mem_cons, List.not_mem_nil, or_false, Prod.mk.injEq] at hmem
            rcases hmem with ⟨rfl, rfl⟩ | ⟨rfl, rfl⟩
            · rw [hc]
              rfl
            · rfl
        · cases hmem
  | cons s pattern ih =>
      rw [lineWays] at h
      obtain ⟨⟨read, r⟩, hread, h⟩ := List.mem_flatMap.1 h
      obtain ⟨⟨reads', r'⟩, hreads, he⟩ := List.mem_map.1 h
      rw [Prod.mk.injEq] at he
      rw [← he.2] at ih ⊢
      rw [← he.1, List.flatten_cons, List.append_assoc, ih hreads]
      exact s.append_of_mem_ways hread

/-- The preferred way reads up to the beginning of the next line, or the whole text. -/
theorem lineStart_of_head? {reads : List Text} {rest : Text}
    (h : (lineWays pattern t).head? = some (reads, rest)) :
    rest = [] ∨ reads.flatten.getLast? = some '\n' := by
  induction pattern generalizing t reads with
  | nil =>
      rw [lineWays, List.head?_map, Option.map_eq_some_iff] at h
      obtain ⟨⟨lineEnd, r⟩, hhead, he⟩ := h
      rw [Prod.mk.injEq] at he
      rw [← he.1, ← he.2, List.flatten_singleton]
      unfold lineEnds at hhead
      split at hhead
      · exact Or.inl (Prod.mk.inj (Option.some.inj hhead)).2.symm
      · split at hhead
        · rw [← (Prod.mk.inj (Option.some.inj hhead)).1]
          exact Or.inr rfl
        · cases hhead
  | cons s pattern ih =>
      -- the preferred way goes on after the first stretch by the preferred way there
      rw [lineWays, List.head?_flatMap] at h
      obtain ⟨r, -, hr⟩ := List.exists_of_findSome?_eq_some h
      rw [List.head?_map, Option.map_eq_some_iff] at hr
      obtain ⟨⟨reads', r'⟩, hreads, he⟩ := hr
      rw [Prod.mk.injEq] at he
      rw [← he.2] at ih ⊢
      rw [← he.1]
      rcases ih hreads with hnil | hlast
      · exact Or.inl hnil
      · right
        rw [List.flatten_cons, List.getLast?_append, hlast]
        rfl

end Preferred

/-! ## Substitution -/

section Substitution

variable {pattern : List Stretch} {put : List Text → Text}

theorem substituteLinesFrom_nil (lineStart : Bool) :
    substituteLinesFrom pattern put 0 lineStart [] = [] := by
  rw [substituteLinesFrom]

/-- After a line feed the text goes on at the beginning of a line. -/
theorem substituteLinesFrom_append {a t : Text} (h : t = [] ∨ a.getLast? = some '\n')
    (lineStart : Bool) :
    substituteLinesFrom pattern put a.length lineStart (a ++ t)
      = substituteLines pattern put t := by
  induction a generalizing lineStart with
  | nil =>
      rcases h with rfl | h
      · rw [substituteLines]
        exact (substituteLinesFrom_nil _).trans (substituteLinesFrom_nil _).symm
      · cases h
  | cons c a ih =>
      rw [List.cons_append, List.length_cons, substituteLinesFrom]
      cases a with
      | nil =>
          rcases h with rfl | h
          · exact ih (Or.inl rfl) _
          · rw [List.getLast?_singleton, Option.some.injEq] at h
            rw [h]
            rfl
      | cons d a =>
          rw [List.getLast?_cons_cons] at h
          exact ih h _

/-- A character where the pattern is not found is kept. -/
theorem substituteLinesFrom_cons {lineStart : Bool} {c : Char} {t : Text}
    (h : lineStart = true → (lineWays pattern (c :: t)).head? = none) :
    substituteLinesFrom pattern put 0 lineStart (c :: t)
      = c :: substituteLinesFrom pattern put 0 (c == '\n') t := by
  rw [substituteLinesFrom]
  cases lineStart with
  | false => rfl
  | true => rw [if_pos rfl, h rfl]

/-- What is read by the preferred way is replaced, and the substitution goes on behind it. -/
theorem substituteLines_of_head? {t rest : Text} {reads : List Text} (hne : reads.flatten ≠ [])
    (h : (lineWays pattern t).head? = some (reads, rest)) :
    substituteLines pattern put t = put reads ++ substituteLines pattern put rest := by
  have ht := flatten_of_mem_lineWays (List.mem_of_head? h)
  have hstart := lineStart_of_head? h
  cases hflat : reads.flatten with
  | nil => exact absurd hflat hne
  | cons c a =>
      rw [hflat] at ht hstart
      rw [← ht] at h ⊢
      rw [← substituteLinesFrom_append hstart true, substituteLines, List.cons_append,
        substituteLinesFrom, if_pos rfl, ← List.cons_append, h]
      dsimp only
      rw [hflat, List.length_cons, Nat.add_sub_cancel, List.cons_append, substituteLinesFrom]

end Substitution

end Prepress.Text
