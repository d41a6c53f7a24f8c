/-
# The table of the surface, pass by pass

A text is made safe by a pass for each symbol of the table, over what the earlier passes have
left, and by a last one that refers to what is still unsafe.  No spelling has a symbol of the table
in it (`IsSettled`), so what one pass has written is nothing to another:

* `foldl_pass_eq_flatMap` : the passes of a settled table spell every character on its own;
* `sanitize_eq_single_pass` : making a text safe is one pass over its characters, whatever the order
  of the table;
* `sanitize_settles` : a safe form has safe characters only, and it is left as it is.
-/
import Mathlib.Data.List.Infix
import Mathlib.Data.List.Nodup
import Prepress.Proofs.Surface

namespace Prepress.Surface

open Text

/-! ## One pass -/

/-- A symbol is replaced by its spelling wherever it occurs. -/
def pass (t : Text) (s : Char × Text) : Text :=
  if occursIn [s.1] t then replace [s.1] s.2 t else t

/-- A mark of one character does not reach into what follows it. -/
theorem replaceFrom_singleton (old : Char) (new t : Text) :
    replaceFrom [old] new 0 t = replaceChar old new t := by
  induction t with
  | nil => rfl
  | cons c t ih =>
      rw [replaceChar, List.flatMap_cons, ← replaceChar]
      by_cases hc : c = old
      · rw [if_pos hc, hc, ← ih]
        exact replaceFrom_mark (List.cons_ne_nil old []) new t
      · have hstart : ¬ [old] <+: c :: t := by
          intro h
          exact hc (List.cons_prefix_cons.1 h).1.symm
        rw [if_neg hc, replaceFrom_cons hstart, ih]
        rfl

theorem replace_singleton (old : Char) (new t : Text) :
    replace [old] new t = replaceChar old new t := by
  rw [replace, if_neg (by simp), replaceFrom_singleton]

/-- A pass works on each character on its own, whether its symbol occurs or not. -/
theorem pass_eq_replaceChar (t : Text) (s : Char × Text) : pass t s = replaceChar s.1 s.2 t := by
  unfold pass
  split
  · exact replace_singleton s.1 s.2 t
  · next h => rw [← replace_singleton, replace_eq_self s.2 (by simpa using h)]

theorem foldl_pass (table : List (Char × Text)) (t : Text) :
    table.foldl pass t = table.foldl (fun t s => replaceChar s.1 s.2 t) t := by
  have hpass : pass = fun t s => replaceChar s.1 s.2 t := by
    funext t s
    exact pass_eq_replaceChar t s
  rw [hpass]

/-! ## All passes -/

/-- No spelling of a table has a symbol of the table in it. -/
def IsSettled (table : List (Char × Text)) : Prop := ∀ s ∈ table, ∀ u ∈ table, u.1 ∉ s.2

/-- A character as a table spells it. -/
def spelled (table : List (Char × Text)) (c : Char) : Text :=
  match table.find? (·.1 == c) with
  | some s => s.2
  | none => [c]

/-- The passes of a settled table replace a character at most once. -/
theorem foldl_replaceChar_eq_spelled {table : List (Char × Text)} (h : IsSettled table) (c : Char) :
    table.foldl (fun t s => replaceChar s.1 s.2 t) [c] = spelled table c := by
  induction table with
  | nil => rfl
  | cons s table ih =>
      have htail : IsSettled table := by
        intro u hu v hv
        exact h u (List.mem_cons_of_mem s hu) v (List.mem_cons_of_mem s hv)
      rw [List.foldl_cons, replaceChar, List.flatMap_singleton, spelled, List.find?_cons]
      by_cases hc : c = s.1
      · -- from here on there is only the spelling, and it has no symbol of a later pass
        rw [if_pos hc, beq_iff_eq.2 hc.symm]
        apply foldl_replaceChar_eq_self
        intro u hu
        exact h s (by simp) u (List.mem_cons_of_mem s hu)
      · rw [if_neg hc, beq_eq_false_iff_ne.2 (Ne.symm hc)]
        exact ih htail

/-- The passes of a settled table spell every character on its own. -/
theorem foldl_pass_eq_flatMap {table : List (Char × Text)} (h : IsSettled table) (t : Text) :
    table.foldl pass t = t.flatMap (spelled table) := by
  rw [foldl_pass]
  induction t with
  | nil => exact foldl_replaceChar_eq_self (by simp)
  | cons c t ih =>
      rw [← List.singleton_append, foldl_replaceChar_append, foldl_replaceChar_eq_spelled h, ih,
        List.flatMap_append, List.flatMap_singleton]

/-! ## The order of the table -/

variable {table : List (Char × Text)}

theorem isSettled_of_perm {other : List (Char × Text)} (hp : table.Perm other)
    (h : IsSettled other) : IsSettled table := by
  intro s hs u hu
  exact h s (hp.mem_iff.1 hs) u (hp.mem_iff.1 hu)

theorem find?_eq_none_iff {c : Char} :
    table.find? (·.1 == c) = none ↔ ∀ spelling, (c, spelling) ∉ table := by
  rw [List.find?_eq_none]
  constructor
  · intro h spelling hmem
    exact h _ hmem (beq_self_eq_true c)
  · rintro h ⟨d, spelling⟩ hmem hc
    rw [← beq_iff_eq.1 hc] at h
    exact h spelling hmem

theorem find?_eq_some_of_mem (hkeys : (table.map (·.1)).Nodup) {c : Char} {spelling : Text}
    (h : (c, spelling) ∈ table) : table.find? (·.1 == c) = some (c, spelling) := by
  cases hs : table.find? (·.1 == c) with
  | none => exact absurd h (find?_eq_none_iff.1 hs spelling)
  | some s =>
      have hc : s.1 = c := by simpa using List.find?_some hs
      rw [List.inj_on_of_nodup_map hkeys (List.mem_of_find?_eq_some hs) h hc]

/-- A character that has a spelling is spelled so, if it has no other one. -/
theorem spelled_of_mem (hkeys : (table.map (·.1)).Nodup) {c : Char} {spelling : Text}
    (h : (c, spelling) ∈ table) : spelled table c = spelling := by
  rw [spelled, find?_eq_some_of_mem hkeys h]

theorem spelled_of_not_mem {c : Char} (h : ∀ spelling, (c, spelling) ∉ table) :
    spelled table c = [c] := by
  rw [spelled, find?_eq_none_iff.2 h]

/-- What a table spells does not hang on its order. -/
theorem spelled_eq_of_perm {other : List (Char × Text)} (hp : table.Perm other)
    (hkeys : (other.map (·.1)).Nodup) : spelled table = spelled other := by
  have hkeys' : (table.map (·.1)).Nodup := (hp.map (·.1)).nodup_iff.2 hkeys
  funext c
  by_cases h : ∃ spelling, (c, spelling) ∈ table
  · obtain ⟨spelling, hmem⟩ := h
    rw [spelled_of_mem hkeys' hmem, spelled_of_mem hkeys (hp.mem_iff.1 hmem)]
  · have hnone : ∀ spelling, (c, spelling) ∉ table := fun spelling hmem => h ⟨spelling, hmem⟩
    have hnone' : ∀ spelling, (c, spelling) ∉ other := by
      intro spelling hmem
      exact hnone spelling (hp.mem_iff.2 hmem)
    rw [spelled_of_not_mem hnone, spelled_of_not_mem hnone']

/-! ## The table of the surface -/

/-- Spellings are written in ASCII, and the symbols lie beyond it. -/
theorem isSettled_symbols : IsSettled symbols := by
  intro s hs u hu hmem
  have hbeyond := (symbols_spec u hu).1
  have hplain := isPlain_of_isSpelling ((symbols_spec s hs).2.2.2 u.1 hmem)
  rw [IsPlain] at hplain
  omega

theorem nodup_symbols : (symbols.map (·.1)).Nodup := by decide

/-- A form of every character that is read off the table, and off the number of the character if it
is not in the table. -/
structure ReadsTable (form : Char → Text) : Prop where
  listed : ∀ c spelling, (c, spelling) ∈ symbols → form c = spelling
  kept : ∀ c, (∀ spelling, (c, spelling) ∉ symbols) →
    c.toNat ≤ 255 ∨ isKnownSafe c.toNat = true → form c = [c]
  referred : ∀ c, (∀ spelling, (c, spelling) ∉ symbols) →
    255 < c.toNat → isKnownSafe c.toNat = false →
    form c = ['&', '#'] ++ Nat.toDigits 10 c.toNat ++ [';']

theorem readsTable_safeForm : ReadsTable safeForm := by
  constructor
  · intro c spelling h
    rw [safeForm, find?_eq_some_of_mem nodup_symbols h]
  · intro c h hc
    rw [safeForm, find?_eq_none_iff.2 h]
    apply if_neg
    rintro ⟨hlarge, hother⟩
    rcases hc with hc | hc
    · omega
    · exact hother hc
  · intro c h hlarge hother
    rw [safeForm, find?_eq_none_iff.2 h]
    exact if_pos ⟨hlarge, by rw [hother]; simp⟩

/-- Making a text safe, pass by pass and then by references, is one pass over its characters: a
character of the table is spelled as the table says, one that is drawn as it is stays, and any other
one is referred to by its number.  So the order of the table does not matter, and a text may be made
safe part by part. -/
theorem sanitize_eq_single_pass :
    ReadsTable safeForm ∧ (∀ t, sanitize t = t.flatMap safeForm) ∧
    (∀ (table : List (Char × Text)) (t : Text), table.Perm symbols →
      (table.foldl pass t).flatMap reference = sanitize t) ∧
    ∀ a b, sanitize (a ++ b) = sanitize a ++ sanitize b := by
  refine ⟨readsTable_safeForm, sanitize_eq_flatMap, ?_, sanitize_append⟩
  intro table t hp
  have hpasses : table.foldl pass t = symbols.foldl pass t := by
    rw [foldl_pass_eq_flatMap (isSettled_of_perm hp isSettled_symbols),
      foldl_pass_eq_flatMap isSettled_symbols, spelled_eq_of_perm hp nodup_symbols]
  rw [hpasses, foldl_pass]
  rfl

/-- The table is gone through from its end, over a text with symbols and an unlisted sign. -/
theorem sanitize_eq_single_pass_reversed :
    symbols.reverse.Perm symbols ∧
      (symbols.reverse.foldl pass "≠→ ✓".toList).flatMap reference
        = sanitize "≠→ ✓".toList :=
  ⟨List.reverse_perm symbols,
    sanitize_eq_single_pass.2.2.1 symbols.reverse _ (List.reverse_perm symbols)⟩

/-! ## What is left -/

theorem isSafe_iff {c : Char} :
    isSafe c = true ↔
      (c.toNat ≤ 255 ∧ ∀ spelling, (c, spelling) ∉ symbols) ∨ isKnownSafe c.toNat = true := by
  have hlisted : symbols.any (·.1 == c) = false ↔ ∀ spelling, (c, spelling) ∉ symbols := by
    rw [List.any_eq_false, ← find?_eq_none_iff, List.find?_eq_none]
  rw [isSafe, Bool.or_eq_true, Bool.and_eq_true, decide_eq_true_eq, Bool.not_eq_true', hlisted]

/-- Every character of a safe form is drawn as it is and is no symbol of the table, and making a
safe form safe again changes nothing. -/
theorem sanitize_settles (t : Text) :
    (∀ c ∈ sanitize t,
      (c.toNat ≤ 255 ∧ ∀ spelling, (c, spelling) ∉ symbols) ∨ isKnownSafe c.toNat = true) ∧
    sanitize (sanitize t) = sanitize t := by
  constructor
  · intro c hc
    exact isSafe_iff.1 (isSafe_of_mem_sanitize hc)
  · apply sanitize_eq_self
    intro c hc
    exact isSafe_of_mem_sanitize hc

/-- A reference that has been put in the place of a sign has a mark of references in it. -/
theorem sanitize_settles_reference :
    '#' ∈ sanitize "≥ ✓".toList ∧
      ('#'.toNat ≤ 255 ∧ (∀ spelling, ('#', spelling) ∉ symbols) ∨ isKnownSafe '#'.toNat = true) :=
  ⟨by decide, (sanitize_settles "≥ ✓".toList).1 '#' (by decide)⟩

end Prepress.Surface
