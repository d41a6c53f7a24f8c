/-
# Rules line by line

Whether a rule stands at the beginning of a line is decided by that line alone, so rules are
replaced line by line:

* `isRule_iff` : a line is a rule when it consists of hyphens, four or more, with spaces and
  tabulators around them;
* `replaceRules_line` : a line is replaced, with its line feed, if it is a rule, and kept if it
  is not;
* `not_isRuleLine_of_mem_replaceRules` : no rule is left when rules are replaced;
* `replaceRules_replaceRules` : replacing rules a second time changes nothing.
-/
import Mathlib.Data.List.TakeWhile
import Prepress.Manuscript.Rule
import Prepress.Proofs.Text.Newlines
import Prepress.Proofs.Text.Within

namespace Prepress.Manuscript

open Text

/-! ## A rule at the beginning of a line -/

/-- Whether a line consists of four hyphens or more, with spaces and tabulators around them. -/
def isRule (l : Text) : Bool :=
  let r := l.dropWhile isIndent
  4 ≤ (r.takeWhile (· == '-')).length && (r.dropWhile (· == '-')).all isIndent

/-- The line of a rule: hyphens, four or more, with spaces and tabulators around them. -/
def IsRuleLine (l : Text) : Prop :=
  ∃ a b n, Within (isIndent · = true) a ∧ Within (isIndent · = true) b ∧ 4 ≤ n ∧
    l = a ++ List.replicate n '-' ++ b

theorem isRule_iff {l : Text} : isRule l = true ↔ IsRuleLine l := by
  constructor
  · intro h
    rw [isRule, Bool.and_eq_true, decide_eq_true_eq, List.all_eq_true] at h
    refine ⟨l.takeWhile isIndent, (l.dropWhile isIndent).dropWhile (· == '-'),
      ((l.dropWhile isIndent).takeWhile (· == '-')).length, ?_, h.2, h.1, ?_⟩
    · intro c hc
      exact List.mem_takeWhile_imp hc
    · have hhyphens : (l.dropWhile isIndent).takeWhile (· == '-')
          = List.replicate ((l.dropWhile isIndent).takeWhile (· == '-')).length '-' :=
        List.eq_replicate_of_mem fun c hc => by simpa using List.mem_takeWhile_imp hc
      rw [← hhyphens, List.append_assoc, List.takeWhile_append_dropWhile,
        List.takeWhile_append_dropWhile]
  · rintro ⟨a, b, n, ha, hb, hn, rfl⟩
    obtain ⟨m, rfl⟩ : ∃ m, n = m + 1 := ⟨n - 1, by omega⟩
    -- the hyphens begin after the indent and end before the next character that is none
    have hstart : (a ++ List.replicate (m + 1) '-' ++ b).dropWhile isIndent
        = List.replicate (m + 1) '-' ++ b := by
      rw [List.append_assoc, List.dropWhile_append_of_pos ha]
      rfl
    have hhyphens : ∀ c ∈ List.replicate (m + 1) '-', (c == '-') = true := by
      intro c hc
      rw [List.eq_of_mem_replicate hc]
      rfl
    have hb' : b.takeWhile (· == '-') = [] ∧ b.dropWhile (· == '-') = b := by
      cases b with
      | nil => exact ⟨rfl, rfl⟩
      | cons c b =>
          have hc : ¬ (c == '-') = true := by
            intro he
            have := hb c (by simp)
            rw [beq_iff_eq.1 he] at this
            exact absurd this (by decide)
          exact ⟨List.takeWhile_cons_of_neg hc, List.dropWhile_cons_of_neg hc⟩
    rw [isRule, hstart, List.takeWhile_append_of_pos hhyphens,
      List.dropWhile_append_of_pos hhyphens, hb'.1, hb'.2, List.append_nil,
      List.length_replicate, Bool.and_eq_true, decide_eq_true_eq, List.all_eq_true]
    exact ⟨hn, hb⟩

/-- The line that a text begins with decides whether the text begins with a rule. -/
theorem afterRule?_append {l t : Text} (hl : '\n' ∉ l) (ht : AtLineEnd t) :
    afterRule? (l ++ t) = if isRule l = true then some (t.drop 1) else none := by
  have hi : isIndent '\n' = false := by decide
  have hd : ('\n' == '-') = false := by decide
  rw [afterRule?, dropWhile_append_of_atLineEnd hi l ht, isRule]
  simp only [takeWhile_append_of_atLineEnd (p := (· == '-')) hd _ ht,
    dropWhile_append_of_atLineEnd (p := (· == '-')) hd _ ht,
    dropWhile_append_of_atLineEnd hi _ ht]
  by_cases hn : 4 ≤ ((l.dropWhile isIndent).takeWhile (· == '-')).length
  · rw [if_neg (by omega)]
    cases hr : ((l.dropWhile isIndent).dropWhile (· == '-')).dropWhile isIndent with
    | nil =>
        rw [List.dropWhile_eq_nil_iff] at hr
        rw [if_pos (by simpa [hn] using hr), List.nil_append]
        cases t with
        | nil => rfl
        | cons c t => exact if_pos (ht c rfl)
    | cons c s =>
        -- a character that is no line feed is left over
        have hmem : c ∈ l := by
          refine (((List.dropWhile_suffix isIndent).trans (List.dropWhile_suffix (· == '-'))).trans
            (List.dropWhile_suffix isIndent)).mem ?_
          rw [hr]
          simp
        have hc : ¬ c = '\n' := fun he => hl (by rw [← he]; exact hmem)
        rw [List.cons_append]
        show (if c = '\n' then some (s ++ t) else none) = _
        rw [if_neg hc, if_neg]
        rw [Bool.and_eq_true, not_and]
        intro _ hall
        rw [List.dropWhile_eq_nil_iff.2 (by simpa using hall)] at hr
        simp at hr
  · rw [if_pos (by omega), if_neg (by simp [hn])]

/-! ## One step of replacing -/

theorem replaceRulesFrom_cons_false (marker : Text) (c : Char) (t : Text) :
    replaceRulesFrom marker false (c :: t) = c :: replaceRulesFrom marker (c == '\n') t := by
  rw [replaceRulesFrom]
  rfl

theorem replaceRulesFrom_cons_none {c : Char} {t : Text} (marker : Text)
    (h : afterRule? (c :: t) = none) :
    replaceRulesFrom marker true (c :: t) = c :: replaceRulesFrom marker (c == '\n') t := by
  rw [replaceRulesFrom]
  split
  · next hr => rw [if_pos rfl, h] at hr; simp at hr
  · rfl

theorem replaceRulesFrom_cons_some {c : Char} {t rest : Text} (marker : Text)
    (h : afterRule? (c :: t) = some rest) :
    replaceRulesFrom marker true (c :: t) = marker ++ replaceRulesFrom marker true rest := by
  rw [replaceRulesFrom]
  split
  · next s hr =>
      rw [if_pos rfl, h, Option.some.injEq] at hr
      rw [hr]
  · next hr => rw [if_pos rfl, h] at hr; simp at hr

theorem replaceRulesFrom_nil (marker : Text) (lineStart : Bool) :
    replaceRulesFrom marker lineStart [] = [] := by
  rw [replaceRulesFrom]

/-- Within a line nothing is replaced. -/
theorem replaceRulesFrom_false_append (marker : Text) {l t : Text} (hl : '\n' ∉ l) :
    replaceRulesFrom marker false (l ++ t) = l ++ replaceRulesFrom marker false t := by
  induction l with
  | nil => rfl
  | cons c l ih =>
      rw [List.mem_cons, not_or] at hl
      have hc : (c == '\n') = false := by simpa using fun he => hl.1 he.symm
      rw [List.cons_append, replaceRulesFrom_cons_false, hc, ih hl.2, List.cons_append]

/-- A line that is no rule is kept. -/
theorem replaceRulesFrom_true_append (marker : Text) {l t : Text} (hl : '\n' ∉ l)
    (ht : AtLineEnd t) (hr : isRule l = false) :
    replaceRulesFrom marker true (l ++ t) = l ++ replaceRulesFrom marker false t := by
  have ha := afterRule?_append hl ht
  rw [hr, if_neg (by simp)] at ha
  cases l with
  | nil =>
      rw [List.nil_append] at ha ⊢
      cases t with
      | nil => rw [replaceRulesFrom_nil, replaceRulesFrom_nil, List.nil_append]
      | cons c t =>
          rw [replaceRulesFrom_cons_none marker ha, replaceRulesFrom_cons_false, List.nil_append]
  | cons c l =>
      rw [List.mem_cons, not_or] at hl
      have hc : (c == '\n') = false := by simpa using fun he => hl.1 he.symm
      rw [List.cons_append] at ha ⊢
      rw [replaceRulesFrom_cons_none marker ha, hc, replaceRulesFrom_false_append marker hl.2,
        List.cons_append]

/-! ## Line by line -/

theorem replaceRules_nil (marker : Text) : replaceRules marker [] = [] :=
  replaceRulesFrom_nil marker true

/-- A line is replaced, with its line feed, if it is a rule, and kept if it is not. -/
theorem replaceRules_line (marker : Text) {l : Text} (hl : '\n' ∉ l) (t : Text) :
    replaceRules marker (l ++ '\n' :: t)
      = (if isRule l = true then marker else l ++ ['\n']) ++ replaceRules marker t := by
  have ha := afterRule?_append hl (atLineEnd_cons t)
  rw [replaceRules]
  cases hr : isRule l with
  | true =>
      rw [hr, if_pos rfl] at ha
      rw [if_pos rfl]
      cases l with
      | nil => simp [isRule] at hr
      | cons c l =>
          rw [List.cons_append] at ha ⊢
          rw [replaceRulesFrom_cons_some marker ha]
          rfl
  | false =>
      rw [if_neg (by simp), replaceRulesFrom_true_append marker hl (atLineEnd_cons t) hr,
        replaceRulesFrom_cons_false, List.append_assoc]
      rfl

/-- The last line is replaced if it is a rule. -/
theorem replaceRules_last (marker : Text) {l : Text} (hl : '\n' ∉ l) :
    replaceRules marker l = if isRule l = true then marker else l := by
  have ha := afterRule?_append hl atLineEnd_nil
  rw [List.append_nil] at ha
  rw [replaceRules]
  cases hr : isRule l with
  | true =>
      rw [hr, if_pos rfl] at ha
      rw [if_pos rfl]
      cases l with
      | nil => simp [isRule] at hr
      | cons c l =>
          rw [replaceRulesFrom_cons_some marker ha, List.drop_nil, replaceRulesFrom_nil,
            List.append_nil]
  | false =>
      have hk := replaceRulesFrom_true_append marker hl atLineEnd_nil hr
      rw [replaceRulesFrom_nil, List.append_nil] at hk
      rw [if_neg (by simp), hk]

/-- A line that begins with a character of no rule is no rule. -/
theorem isRule_eq_false {c : Char} (hi : isIndent c = false) (hd : (c == '-') = false) {l : Text}
    (hl : l.head? = some c) : isRule l = false := by
  obtain ⟨t, rfl⟩ := List.head?_eq_some_iff.1 hl
  rw [isRule, List.dropWhile_cons_of_neg (by simp [hi]), List.takeWhile_cons_of_neg (by simp [hd])]
  rfl

/-- Lines that are no rules are left alone. -/
theorem replaceRules_lines (marker : Text) {ls : List Text}
    (h : ∀ l ∈ ls, '\n' ∉ l ∧ isRule l = false) :
    replaceRules marker (ls.flatMap (· ++ ['\n'])) = ls.flatMap (· ++ ['\n']) := by
  induction ls with
  | nil => exact replaceRules_nil marker
  | cons l ls ih =>
      obtain ⟨hl, hr⟩ := h l (by simp)
      rw [List.flatMap_cons, List.append_assoc, List.singleton_append, replaceRules_line marker hl,
        hr, if_neg (by simp), ih fun k hk => h k (List.mem_cons_of_mem l hk), List.append_assoc,
        List.singleton_append]

/-- A marker that is a line of its own, and no rule, is left alone. -/
theorem replaceRules_replaceRules {k : Text} (hk : '\n' ∉ k) (hr : isRule k = false) (t : Text) :
    replaceRules (k ++ ['\n']) (replaceRules (k ++ ['\n']) t)
      = replaceRules (k ++ ['\n']) t := by
  -- what stands in the place of a line is a line again, and no rule
  have hline : ∀ l s, '\n' ∉ l → isRule l = false →
      replaceRules (k ++ ['\n']) (l ++ ['\n'] ++ s)
        = l ++ ['\n'] ++ replaceRules (k ++ ['\n']) s := by
    intro l s hl hlr
    rw [List.append_assoc, List.singleton_append, replaceRules_line _ hl, hlr, if_neg (by simp)]
  induction t using line_induction with
  | last l hl =>
      rw [replaceRules_last _ hl]
      cases hlr : isRule l with
      | true =>
          have h := hline k [] hk hr
          rw [replaceRules_nil, List.append_nil] at h
          rw [if_pos rfl]
          exact h
      | false => rw [if_neg (by simp), replaceRules_last _ hl, hlr, if_neg (by simp)]
  | line l t hl ih =>
      rw [replaceRules_line _ hl]
      cases hlr : isRule l with
      | true => rw [if_pos rfl, hline k _ hk hr, ih]
      | false => rw [if_neg (by simp), hline l _ hl hlr, ih]

/-- When rules are replaced by a marker that is a line of its own, and no rule, none is left. -/
theorem not_isRuleLine_of_mem_replaceRules {k : Text} (hk : '\n' ∉ k) (hr : isRule k = false)
    {l t : Text} (h : l ∈ splitOn '\n' (replaceRules (k ++ ['\n']) t)) : ¬ IsRuleLine l := by
  rw [← isRule_iff, Bool.not_eq_true]
  -- a line that is put before a text is one of its lines, and the others are those of the text
  have hfirst : ∀ m s, '\n' ∉ m → isRule m = false → l ∈ splitOn '\n' (m ++ ['\n'] ++ s) →
      isRule l = false ∨ l ∈ splitOn '\n' s := by
    intro m s hm hmr hl
    rw [List.append_assoc, List.singleton_append, splitOn_line hm] at hl
    rcases List.mem_cons.1 hl with hl | hl
    · exact Or.inl (by rw [hl, hmr])
    · exact Or.inr hl
  induction t using line_induction with
  | last m hm =>
      rw [replaceRules_last _ hm] at h
      cases hmr : isRule m with
      | true =>
          rw [hmr, if_pos rfl, ← List.append_nil (k ++ ['\n'])] at h
          refine (hfirst k [] hk hr h).elim id fun hl => ?_
          rw [List.mem_singleton.1 hl]
          rfl
      | false =>
          rw [hmr, if_neg (by simp), splitOn_last hm] at h
          rw [List.mem_singleton.1 h, hmr]
  | line m t hm ih =>
      rw [replaceRules_line _ hm] at h
      cases hmr : isRule m with
      | true =>
          rw [hmr, if_pos rfl] at h
          exact (hfirst k _ hk hr h).elim id ih
      | false =>
          rw [hmr, if_neg (by simp)] at h
          exact (hfirst m _ hm hmr h).elim id ih

/-- Nothing but the marker is brought in. -/
theorem within_replaceRules {P : Char → Prop} {marker t : Text} (hm : Within P marker)
    (ht : Within P t) : Within P (replaceRules marker t) := by
  induction t using line_induction with
  | last l hl =>
      rw [replaceRules_last _ hl]
      split
      · exact hm
      · exact ht
  | line l t hl ih =>
      rw [within_append, within_cons] at ht
      rw [replaceRules_line _ hl, within_append]
      refine ⟨?_, ih ht.2.2⟩
      split
      · exact hm
      · rw [within_append, within_cons]
        exact ⟨ht.1, ht.2.1, within_nil⟩

end Prepress.Manuscript
