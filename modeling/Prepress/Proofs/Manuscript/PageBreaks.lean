/-
# Page breaks from the left and line by line

A rule is what a pattern of lines finds: spaces and tabulators, as many as there are, four hyphens
and more of them, spaces and tabulators again, and the end of the line (`rulePattern`).

* `head?_lineWays_rulePattern` : the pattern is found at the beginning of a line exactly if a rule
  stands there, and it reads up to the next line;
* `replaceRules_eq_breakLines` : substituting the page break for the pattern, replacing the rules
  and going through the lines one by one (`breakLines`) are the same.
-/
import Prepress.Proofs.Manuscript.Rule
import Prepress.Proofs.Text.LinePattern

namespace Prepress.Manuscript

open Text

/-! ## Rules as a pattern -/

/-- The hyphens that a rule has at least. -/
def hyphens : Text := "----".toList

/-- A run of spaces and tabulators, four hyphens, a run of hyphens, and a run of spaces and
tabulators; all runs are to be long. -/
def rulePattern : List Stretch :=
  [.longest isIndent, .word hyphens, .longest (· == '-'), .longest isIndent]

/-- A run of four hyphens or more begins with four hyphens. -/
theorem hyphens_isPrefix {r : Text} (h : 4 ≤ (r.takeWhile (· == '-')).length) : hyphens <+: r := by
  have hrun : r.takeWhile (· == '-') = List.replicate (r.takeWhile (· == '-')).length '-' :=
    List.eq_replicate_of_mem fun c hc => by simpa using List.mem_takeWhile_imp hc
  have hfour : hyphens = List.replicate 4 '-' := rfl
  refine List.IsPrefix.trans ?_ (List.takeWhile_prefix (· == '-'))
  rw [hrun, hfour, List.prefix_iff_eq_take, List.take_replicate, List.length_replicate,
    Nat.min_eq_left h]

/-- A rule begins with the hyphens, after spaces and tabulators, and reaches to the end of the line
behind further hyphens, spaces and tabulators. -/
theorem afterRule?_eq (t : Text) :
    afterRule? t = (after? hyphens (t.dropWhile isIndent)).bind fun s =>
      (lineEnds ((s.dropWhile (· == '-')).dropWhile isIndent)).head?.map Prod.snd := by
  rw [afterRule?]
  cases hs : after? hyphens (t.dropWhile isIndent) with
  | none =>
      rw [after?_eq_none_iff] at hs
      exact if_pos (Nat.lt_of_not_le fun h => hs (hyphens_isPrefix h))
  | some s =>
      have hall : ∀ c ∈ hyphens, (c == '-') = true := by decide
      have hlong : ¬ (hyphens ++ s.takeWhile (· == '-')).length < 4 := by
        rw [List.length_append]
        show ¬ 4 + _ < 4
        omega
      rw [after?_eq_some.1 hs, List.takeWhile_append_of_pos hall, List.dropWhile_append_of_pos hall,
        if_neg hlong, Option.bind_some]
      cases (s.dropWhile (· == '-')).dropWhile isIndent with
      | nil => rfl
      | cons c rest =>
          rw [lineEnds]
          by_cases hc : c = '\n'
          · rw [if_pos hc]
            exact if_pos hc
          · rw [if_neg hc]
            exact if_neg hc

/-- The pattern is found where a rule stands, and what follows it is what follows the rule. -/
theorem head?_lineWays_rulePattern (t : Text) :
    (lineWays rulePattern t).head?.map Prod.snd = afterRule? t := by
  -- no run helps what comes after it by being shorter
  have hend : ∀ c s, isIndent c = true → lineWays [] (c :: s) = [] := by
    intro c s hc
    rw [lineWays, lineEnds, if_neg, List.map_nil]
    rintro rfl
    exact absurd hc (by decide)
  have hblanks : ∀ c s, (c == '-') = true → lineWays [.longest isIndent] (c :: s) = [] := by
    intro c s hc
    rw [beq_iff_eq.1 hc]
    rfl
  have hword : ∀ c s, isIndent c = true →
      lineWays [.word hyphens, .longest (· == '-'), .longest isIndent] (c :: s) = [] := by
    intro c s hc
    rw [lineWays_word, after?_eq_none_iff.2]
    intro hp
    rw [(List.cons_prefix_cons.1 hp).1.symm] at hc
    exact absurd hc (by decide)
  rw [rulePattern, head?_lineWays_longest hword, lineWays_word, afterRule?_eq]
  cases after? hyphens (t.dropWhile isIndent) with
  | none => rfl
  | some s =>
      dsimp only
      rw [List.head?_map, head?_lineWays_longest hblanks, head?_lineWays_longest hend, lineWays,
        List.head?_map, Option.bind_some]
      simp only [Option.map_map]
      rfl

/-- Substituting for the pattern replaces the rules, at the beginning of a line and within one. -/
theorem substituteLinesFrom_rulePattern (marker : Text) (lineStart : Bool) (t : Text) :
    substituteLinesFrom rulePattern (fun _ => marker) 0 lineStart t
      = replaceRulesFrom marker lineStart t := by
  fun_induction replaceRulesFrom marker lineStart t with
  | case1 lineStart => exact substituteLinesFrom_nil lineStart
  | case2 lineStart c t rest h ih =>
      cases lineStart with
      | false => cases h
      | true =>
          rw [dif_pos rfl] at h
          have hway := head?_lineWays_rulePattern (c :: t)
          rw [h, Option.map_eq_some_iff] at hway
          obtain ⟨⟨reads, rest'⟩, hhead, rfl⟩ := hway
          -- a rule is not empty, so something is read
          have hne : reads.flatten ≠ [] := by
            intro hnil
            have hflat := flatten_of_mem_lineWays (List.mem_of_head? hhead)
            rw [hnil, List.nil_append] at hflat
            have hshorter := afterRule?_length h
            rw [hflat] at hshorter
            exact absurd hshorter (Nat.lt_irrefl _)
          rw [← substituteLines, substituteLines_of_head? hne hhead, substituteLines, ih]
  | case3 lineStart c t h ih =>
      rw [substituteLinesFrom_cons, ih]
      intro hstart
      rw [hstart, dif_pos rfl] at h
      rw [← Option.map_eq_none_iff, head?_lineWays_rulePattern, h]

/-! ## Rules line by line -/

instance (l : Text) : Decidable (IsRuleLine l) := decidable_of_iff _ isRule_iff

/-- A line with its end, or the page break in their place if the line is a rule. -/
def breakLine (marker l lineEnd : Text) : Text := if IsRuleLine l then marker else l ++ lineEnd

/-- Lines put together again, with line feeds between them and page breaks for rules. -/
def breakLines (marker : Text) : List Text → Text
  | [] => []
  | [l] => breakLine marker l []
  | l :: ls => breakLine marker l ['\n'] ++ breakLines marker ls

/-- **Rules become page breaks line by line.**  Substituting the page break for the pattern of rules
is replacing the rules, and it is going through the lines of the text: a line of hyphens, four or
more, with spaces and tabulators around them, is replaced with its line feed, if it has one, and all
other lines are kept with theirs. -/
theorem replaceRules_eq_breakLines (marker t : Text) :
    substituteLines rulePattern (fun _ => marker) t = replaceRules marker t ∧
      replaceRules marker t = breakLines marker (splitOn '\n' t) := by
  refine ⟨substituteLinesFrom_rulePattern marker true t, ?_⟩
  induction t using line_induction with
  | last l hl =>
      rw [replaceRules_last marker hl, splitOn_last hl, breakLines, breakLine, List.append_nil]
      simp only [isRule_iff]
  | line l t hl ih =>
      obtain ⟨m, ms, hlines⟩ := List.exists_cons_of_ne_nil (splitOn_ne_nil '\n' t)
      rw [replaceRules_line marker hl, splitOn_line hl, ih, hlines]
      show _ = breakLine marker l ['\n'] ++ breakLines marker (m :: ms)
      rw [breakLine]
      simp only [isRule_iff]

end Prepress.Manuscript
