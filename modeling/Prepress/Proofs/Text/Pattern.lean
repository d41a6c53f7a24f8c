/-
# Patterns with runs of characters

A pattern is a row of words and of runs of characters of a class.  Each run is to be as long, or as
short, as what comes after it permits.  A text may begin with a pattern in several ways: they are
listed with the preferred one first (`ways`), and a substitution goes by the first one at each
place, from the left (`substitute`).

* `flatten_of_mem_ways` : what a pattern reads is the beginning of the text;
* `head?_ways_longest` : a run that is to be long is taken whole, unless what comes after it can be
  read only if it is given less;
* `head?_ways_shortest` : a run of any characters that is to be short reaches to the first occurrence
  of the word after it.
-/
import Prepress.Proofs.Text.Occurrence

namespace Prepress.Text

/-! ## Ways to read a text -/

/-- A stretch of a text that a pattern asks for. -/
inductive Stretch where
  | word (w : Text)
  | longest (p : Char → Bool)
  | shortest (p : Char → Bool)

/-- The runs of a class that a text begins with, the empty one first, and what follows each. -/
def runs (p : Char → Bool) : Text → List (Text × Text)
  | [] => [([], [])]
  | c :: t =>
    ([], c :: t) :: if p c then (runs p t).map fun r => (c :: r.1, r.2) else []

/-- What may be read for a stretch at the beginning of a text, and what follows it, the preferred
way first. -/
def Stretch.ways : Stretch → Text → List (Text × Text)
  | .word w, t => ((after? w t).map fun rest => (w, rest)).toList
  | .longest p, t => (runs p t).reverse
  | .shortest p, t => runs p t

/-- What may be read for the stretches of a pattern at the beginning of a text, and what follows
them.  A later stretch may go another way only if all ways after an earlier one have been tried. -/
def ways : List Stretch → Text → List (List Text × Text)
  | [], t => [([], t)]
  | s :: pattern, t =>
    (s.ways t).flatMap fun r => (ways pattern r.2).map fun w => (r.1 :: w.1, w.2)

/-- Substitutes what is put for the stretches read, wherever the pattern is found, after the next
`skip` characters.  The pattern is one that reads a character at least. -/
def substituteFrom (pattern : List Stretch) (put : List Text → Text) : (skip : Nat) → Text → Text
  | _, [] => []
  | skip + 1, _ :: t => substituteFrom pattern put skip t
  | 0, c :: t =>
    match (ways pattern (c :: t)).head? with
    | some (reads, _) => put reads ++ substituteFrom pattern put (reads.flatten.length - 1) t
    | none => c :: substituteFrom pattern put 0 t

/-- Substitutes what is put for the stretches read, wherever the pattern is found from the left. -/
def substitute (pattern : List Stretch) (put : List Text → Text) (t : Text) : Text :=
  substituteFrom pattern put 0 t

/-! ## Nothing is lost -/

section Reading

variable {p : Char → Bool} {t : Text}

theorem append_of_mem_runs {run rest : Text} (h : (run, rest) ∈ runs p t) : run ++ rest = t := by
  induction t generalizing run with
  | nil =>
      rw [runs, List.mem_singleton, Prod.mk.injEq] at h
      rw [h.1, h.2, List.append_nil]
  | cons c t ih =>
      rw [runs, List.mem_cons] at h
      rcases h with h | h
      · rw [Prod.mk.injEq] at h
        rw [h.1, h.2, List.nil_append]
      · split at h
        · obtain ⟨⟨run', rest'⟩, hmem, he⟩ := List.mem_map.1 h
          rw [Prod.mk.injEq] at he
          rw [← he.2] at ih ⊢
          rw [← he.1, List.cons_append, ih hmem]
        · cases h

theorem Stretch.append_of_mem_ways {s : Stretch} {read rest : Text}
    (h : (read, rest) ∈ s.ways t) : read ++ rest = t := by
  cases s with
  | word w =>
      rw [ways, Option.mem_toList, Option.map_eq_some_iff] at h
      obtain ⟨r, hr, he⟩ := h
      rw [Prod.mk.injEq] at he
      rw [← he.1, ← he.2, after?_eq_some.1 hr]
  | longest p => exact append_of_mem_runs (List.mem_reverse.1 h)
  | shortest p => exact append_of_mem_runs h

/-- What a pattern reads is the beginning of the text. -/
theorem flatten_of_mem_ways {pattern : List Stretch} {reads : List Text} {rest : Text}
    (h : (reads, rest) ∈ ways pattern t) : reads.flatten ++ rest = t := by
  induction pattern generalizing t reads with
  | nil =>
      rw [ways, List.mem_singleton, Prod.mk.injEq] at h
      rw [h.1, h.2]
      rfl
  | cons s pattern ih =>
      rw [ways] at h
      obtain ⟨⟨read, r⟩, hread, h⟩ := List.mem_flatMap.1 h
      obtain ⟨⟨reads', r'⟩, hreads, he⟩ := List.mem_map.1 h
      rw [Prod.mk.injEq] at he
      rw [← he.2] at ih ⊢
      rw [← he.1, List.flatten_cons, List.append_assoc, ih hreads]
      exact s.append_of_mem_ways hread

end Reading

/-! ## The preferred way -/

section Preferred

variable {p : Char → Bool} {pattern : List Stretch} {t : Text}

theorem ways_word (w : Text) (pattern : List Stretch) (t : Text) :
    ways (.word w :: pattern) t
      = match after? w t with
        | some rest => (ways pattern rest).map fun x => (w :: x.1, x.2)
        | none => [] := by
  rw [ways, Stretch.ways]
  cases after? w t with
  | some rest => exact List.flatMap_singleton _ _
  | none => rfl

/-- The longest run is the last one of the list. -/
theorem exists_runs_eq (p : Char → Bool) (t : Text) :
    ∃ shorter, runs p t = shorter ++ [(t.takeWhile p, t.dropWhile p)] := by
  induction t with
  | nil => exact ⟨[], rfl⟩
  | cons c t ih =>
      obtain ⟨shorter, hshorter⟩ := ih
      unfold runs
      by_cases hc : p c = true
      · refine ⟨([], c :: t) :: shorter.map fun r => (c :: r.1, r.2), ?_⟩
        rw [if_pos hc, hshorter, List.map_append, List.takeWhile_cons_of_pos hc,
          List.dropWhile_cons_of_pos hc]
        rfl
      · refine ⟨[], ?_⟩
        rw [if_neg hc, List.takeWhile_cons_of_neg hc, List.dropWhile_cons_of_neg hc]
        rfl

/-- What follows a run goes on with what follows the longest one. -/
theorem dropWhile_of_mem_runs {run rest : Text} (h : (run, rest) ∈ runs p t) :
    rest.dropWhile p = t.dropWhile p := by
  induction t generalizing run with
  | nil =>
      rw [runs, List.mem_singleton, Prod.mk.injEq] at h
      rw [h.2]
  | cons c t ih =>
      rw [runs, List.mem_cons] at h
      rcases h with h | h
      · rw [Prod.mk.injEq] at h
        rw [h.2]
      · split at h
        · next hc =>
            obtain ⟨⟨run', rest'⟩, hmem, he⟩ := List.mem_map.1 h
            rw [Prod.mk.injEq] at he
            rw [← he.2] at ih ⊢
            rw [ih hmem, List.dropWhile_cons_of_pos hc]
        · cases h

/-- Of what comes after the runs of a class, the longest one first, that after the longest run comes
first, unless there is none and there is something after a shorter one. -/
theorem head?_flatMap_runs {β γ : Type} (f : Text → List β) (g : Text → β → γ)
    (h : f (t.dropWhile p) = [] → ∀ r ∈ runs p t, f r.2 = []) :
    ((runs p t).reverse.flatMap fun r => (f r.2).map (g r.1)).head?
      = (f (t.dropWhile p)).head?.map (g (t.takeWhile p)) := by
  cases hw : f (t.dropWhile p) with
  | nil =>
      have hnone := h hw
      rw [List.head?_nil, Option.map_none, List.head?_eq_none_iff, List.flatMap_eq_nil_iff]
      intro r hr
      rw [hnone r (List.mem_reverse.1 hr), List.map_nil]
  | cons way others =>
      obtain ⟨shorter, hshorter⟩ := exists_runs_eq p t
      rw [hshorter, List.reverse_append, List.reverse_singleton, List.singleton_append,
        List.flatMap_cons, hw]
      rfl

/-- A run that is to be long is taken whole if giving it less would not help what comes after. -/
theorem head?_ways_longest
    (h : ways pattern (t.dropWhile p) = [] → ∀ r ∈ runs p t, ways pattern r.2 = []) :
    (ways (.longest p :: pattern) t).head?
      = (ways pattern (t.dropWhile p)).head?.map fun w => (t.takeWhile p :: w.1, w.2) :=
  head?_flatMap_runs (ways pattern) (fun run w => (run :: w.1, w.2)) h

/-- A way with a character more at the beginning. -/
def lengthen (c : Char) (w : List Text × Text) : List Text × Text :=
  (w.1.modifyHead (c :: ·), w.2)

/-- A run that is to be short is empty, or it is a run of what follows with a character more. -/
theorem ways_shortest_cons (p : Char → Bool) (pattern : List Stretch) (c : Char) (t : Text) :
    ways (.shortest p :: pattern) (c :: t)
      = ((ways pattern (c :: t)).map fun w => ([] :: w.1, w.2))
        ++ if p c then (ways (.shortest p :: pattern) t).map (lengthen c) else [] := by
  rw [ways, Stretch.ways, runs, List.flatMap_cons, ways, Stretch.ways]
  congr 1
  split
  · rw [List.flatMap_map, List.map_flatMap]
    congr 1
    funext r
    rw [List.map_map]
    rfl
  · rfl

/-- A run of any characters that is to be short reaches to the first occurrence of the word. -/
theorem head?_ways_shortest (mark t : Text) :
    (ways [.shortest fun _ => true, .word mark] t).head?
      = (cut? mark t).map fun x => ([x.1, mark], x.2) := by
  induction t with
  | nil => cases mark <;> rfl
  | cons c t ih =>
      rw [ways_shortest_cons, if_pos rfl, ways_word, cut?]
      cases after? mark (c :: t) with
      | some rest => rfl
      | none =>
          -- the word does not begin here, so the run goes on
          rw [List.map_nil, List.nil_append, List.head?_map, ih, Option.map_map, Option.map_map]
          rfl

end Preferred

/-! ## Substitution -/

section Substitution

variable {pattern : List Stretch} {put : List Text → Text}

theorem substituteFrom_append (a t : Text) :
    substituteFrom pattern put a.length (a ++ t) = substitute pattern put t := by
  induction a with
  | nil => rfl
  | cons c a ih => exact ih

theorem substitute_nil : substitute pattern put [] = [] := by
  rw [substitute, substituteFrom]

/-- A character where the pattern is not found is kept. -/
theorem substitute_cons {c : Char} {t : Text} (h : (ways pattern (c :: t)).head? = none) :
    substitute pattern put (c :: t) = c :: substitute pattern put t := by
  rw [substitute, substituteFrom, h]
  rfl

/-- What is read by the preferred way is replaced, and the substitution goes on behind it. -/
theorem substitute_of_head? {t rest : Text} {reads : List Text} (hne : reads.flatten ≠ [])
    (h : (ways pattern t).head? = some (reads, rest)) :
    substitute pattern put t = put reads ++ substitute pattern put rest := by
  have ht := flatten_of_mem_ways (List.mem_of_head? h)
  cases hflat : reads.flatten with
  | nil => exact absurd hflat hne
  | cons c a =>
      rw [hflat, List.cons_append] at ht
      rw [← ht] at h ⊢
      rw [substitute, substituteFrom, h]
      dsimp only
      rw [hflat, List.length_cons, Nat.add_sub_cancel, substituteFrom_append]

end Substitution

end Prepress.Text
