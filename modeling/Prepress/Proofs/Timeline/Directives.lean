/-
# Directives and tasks

A directive passes over every line that begins with its letters, in any case, and not only the lines
whose first word it is.  So a line of a label and a colon describes a task exactly when no directive
begins the first word of the label (`classify_eq_task_iff`).
-/
import Prepress.Proofs.Text.Case
import Prepress.Proofs.Timeline.TaskLine

namespace Prepress.Timeline

open Text

/-! ## The first word of a line -/

/-- The word that a line begins with, up to the first blank. -/
def leadingWord (l : Text) : Text := l.takeWhile fun c => !isBlank c

/-- A word before a blank is the first word. -/
theorem leadingWord_append_cons {w : Text} (hw : Within (isBlank · = false) w) {b : Char}
    (hb : isBlank b = true) (t : Text) : leadingWord (w ++ b :: t) = w := by
  have hword : ∀ c ∈ w, (!isBlank c) = true := fun c hc => by rw [hw c hc]; rfl
  rw [leadingWord, List.takeWhile_append_of_pos hword,
    List.takeWhile_cons_of_neg (by simp [hb]), List.append_nil]

/-- A line with a blank behind it begins with its first word and a blank. -/
theorem exists_append_cons_eq {b : Char} (hb : isBlank b = true) (l t : Text) :
    ∃ c s, isBlank c = true ∧ l ++ b :: t = leadingWord l ++ c :: s := by
  have hl : leadingWord l ++ l.dropWhile (fun c => !isBlank c) = l :=
    List.takeWhile_append_dropWhile
  have hhead := List.head?_dropWhile_not (fun c => !isBlank c) l
  cases hr : l.dropWhile (fun c => !isBlank c) with
  | nil =>
      rw [hr, List.append_nil] at hl
      exact ⟨b, t, hb, by rw [hl]⟩
  | cons c r =>
      rw [hr] at hhead hl
      refine ⟨c, r ++ b :: t, by simpa using hhead, ?_⟩
      rw [← List.cons_append, ← List.append_assoc, hl]

/-- What stands before the first space is the first word, if it has no other blank. -/
theorem leadingWord_eq_firstWord {l : Text} (h : Within (isBlank · = false) (firstWord l)) :
    leadingWord l = firstWord l := by
  have hl : firstWord l ++ l.dropWhile (· != ' ') = l := List.takeWhile_append_dropWhile
  have hhead := List.head?_dropWhile_not (· != ' ') l
  cases hr : l.dropWhile (· != ' ') with
  | nil =>
      rw [hr, List.append_nil] at hl
      rw [hl] at h
      rw [hl, leadingWord, List.takeWhile_eq_self_iff]
      exact fun c hc => by rw [h c hc]; rfl
  | cons c r =>
      rw [hr] at hhead hl
      have hc : c = ' ' := by simpa using hhead
      rw [← hl, hc, leadingWord_append_cons h (by decide), firstWord_append]
      exact h.not_mem (by decide)

/-- A keyword before a space is the first word, so the first word becomes it in lower case. -/
theorem lower_leadingWord_of_firstWord {keyword l : Text} (hk : IsKeyword keyword)
    (h : (firstWord l).map Char.toLower = keyword) : (leadingWord l).lower = keyword := by
  have hsmall : ∀ c ∈ firstWord l, c.toLower.isLower = true := by
    intro c hc
    exact (hk _ (h ▸ List.mem_map_of_mem hc)).1
  have hblank : Within (isBlank · = false) (firstWord l) := by
    intro c hc
    by_contra hb
    rw [Bool.not_eq_false] at hb
    obtain ⟨hlower, hself, -⟩ := isCaseless_of_isBlank hb
    have := hsmall c hc
    rw [hself, hlower] at this
    simp at this
  rw [leadingWord_eq_firstWord hblank, ← h]
  exact lowerAfter_eq_map hsmall []

/-! ## Readings of a line -/

/-- A line has no argument of a keyword that is not its first word. -/
theorem argument?_eq_none_of_leadingWord {keyword l : Text} (hk : IsKeyword keyword)
    (h : (leadingWord l).lower ≠ keyword) (t : Text) :
    Line.argument? keyword (l ++ ' ' :: t) = none := by
  refine argument?_append_eq_none hk (argument?_eq_none_of_firstWord hk ?_) ?_
  · exact fun hword => h (lower_leadingWord_of_firstWord hk hword)
  · intro c hc
    rw [← Option.some.inj hc]
    decide

/-- A directive of one word passes over a line exactly when it begins the first word. -/
theorem isPrefix_lower_iff {k : Text} (hk : Within (isBlank · = false) k) (l t : Text) :
    k.lower <+: (l ++ ' ' :: t).lower ↔ k.lower <+: (leadingWord l).lower := by
  obtain ⟨c, s, hc, hline⟩ := exists_append_cons_eq (b := ' ') (by decide) l t
  obtain ⟨r, hlower⟩ := lower_append_cons hc (leadingWord l) s
  have hmem : c ∉ k.lower := (not_isBlank_of_mem_lower hk).not_mem (by simp [hc])
  rw [hline, hlower]
  exact ⟨isPrefix_of_isPrefix_append_cons hmem, fun h => h.trans (List.prefix_append _ _)⟩

variable {directives : List Text} {l : Text}

/-- A line of a label and a colon whose first word is no keyword is passed over or describes a
task. -/
theorem classify_append_cons (hl : ':' ∉ l) (ht : (leadingWord l).lower ≠ "title".toList)
    (hs : (leadingWord l).lower ≠ "section".toList) (rest : Text) :
    Line.classify directives (l ++ " :".toList ++ rest)
      = some (match Line.ignored? directives (l ++ " :".toList ++ rest) with
        | some directive => .ignored directive
        | none => .task (trim l) (Line.parts rest)) := by
  have hline : l ++ " :".toList ++ rest = l ++ ' ' :: ':' :: rest := List.append_assoc _ _ _
  have htask : Line.task? (l ++ ' ' :: ':' :: rest) = some (trim l, Line.parts rest) :=
    task?_append_cons (b := [' ']) hl (by decide) rest
  rw [hline, Line.classify, argument?_eq_none_of_leadingWord (by decide) ht,
    argument?_eq_none_of_leadingWord (by decide) hs, htask]
  cases Line.ignored? directives (l ++ ' ' :: ':' :: rest) <;> rfl

/-- **Tasks and directives.**  Where directives are single words, a line of a label and a colon
whose first word is no keyword, letter case aside, describes a task with that label and the parts
after the colon exactly when no directive is a beginning of that word. -/
theorem classify_eq_task_iff (hd : ∀ k ∈ directives, ∀ c ∈ k, isBlank c = false) (hl : ':' ∉ l)
    (ht : (leadingWord l).lower ≠ "title".toList) (hs : (leadingWord l).lower ≠ "section".toList)
    (rest : Text) :
    Line.classify directives (l ++ " :".toList ++ rest) = some (.task (trim l) (Line.parts rest)) ↔
      ∀ k ∈ directives, ¬ k.lower <+: (leadingWord l).lower := by
  have hline : l ++ " :".toList ++ rest = l ++ ' ' :: ':' :: rest := List.append_assoc _ _ _
  have hignored : Line.ignored? directives (l ++ " :".toList ++ rest) = none ↔
      ∀ k ∈ directives, ¬ k.lower <+: (leadingWord l).lower := by
    rw [ignored?_eq_none_iff, hline]
    exact forall₂_congr fun k hk => not_congr (isPrefix_lower_iff (hd k hk) l _)
  rw [← hignored, classify_append_cons hl ht hs]
  cases Line.ignored? directives (l ++ " :".toList ++ rest) with
  | none => simp
  | some directive => simp

/-- With a further directive, a label whose first word has most of its letters describes a task. -/
theorem classify_eq_task_iff_exclusions :
    (∀ k ∈ "excludes".toList :: standardDirectives, ∀ c ∈ k, isBlank c = false) ∧
      ':' ∉ "EXCLUSIONS, dateformat ".toList ∧
      (leadingWord "EXCLUSIONS, dateformat ".toList).lower ≠ "title".toList ∧
      (leadingWord "EXCLUSIONS, dateformat ".toList).lower ≠ "section".toList ∧
      Line.classify ("excludes".toList :: standardDirectives)
          ("EXCLUSIONS, dateformat ".toList ++ " :".toList ++ "x1,, 2025-01-01 : ,".toList)
        = some (.task "EXCLUSIONS, dateformat".toList ["x1".toList, "2025-01-01 :".toList]) := by
  have hd : ∀ k ∈ "excludes".toList :: standardDirectives, ∀ c ∈ k, isBlank c = false := by
    decide
  have hl : ':' ∉ "EXCLUSIONS, dateformat ".toList := by decide
  have ht : (leadingWord "EXCLUSIONS, dateformat ".toList).lower ≠ "title".toList := by
    decide
  have hs : (leadingWord "EXCLUSIONS, dateformat ".toList).lower ≠ "section".toList := by
    decide
  refine ⟨hd, hl, ht, hs, ?_⟩
  have htask := (classify_eq_task_iff hd hl ht hs "x1,, 2025-01-01 : ,".toList).2
    (by decide)
  rw [htask]
  decide

/-- A line whose first word goes on after the letters of a directive is passed over all the same. -/
theorem classify_longerWord :
    (∀ k ∈ standardDirectives, k ≠ [] ∧ ∀ c ∈ k, isBlank c = false) ∧
      (leadingWord "dateFormats".toList).lower
        ∉ "title".toList :: "section".toList :: standardDirectives.map lower ∧
      Line.classify standardDirectives
          ("dateFormats".toList ++ " :".toList ++ "t1, 2025-01-01, 2d".toList)
        = some (.ignored "dateformat".toList) := by
  decide

end Prepress.Timeline
