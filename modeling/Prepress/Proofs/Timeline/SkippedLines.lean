/-
# Lines that are skipped

Six kinds of lines give neither a title nor a heading nor a task (`IsSkipped`).  What such a line
gives is at most one entry, which is idle (`isSkipped_iff`), and an idle entry changes nothing of
what has been read (`Document.add_of_isIdle`) nor of the notes on what comes after it
(`exists_entryNotes_cons`).

* `Document.read_append_skipped` : a line that is skipped changes nothing, wherever it stands, and
  leaves one note at most.
-/
import Prepress.Proofs.Timeline.LineByLine

namespace Prepress.Timeline

open Text

/-! ## Entries that change nothing -/

section Idle

variable {α : Type}

/-- The entries that give neither a title nor a heading nor a task. -/
def Entry.IsIdle : Entry α → Prop
  | .ignored => True
  | .unrecognized _ => True
  | .task _ (.error _) => True
  | _ => False

/-- An idle entry changes nothing, whatever has been read before. -/
theorem Document.add_of_isIdle {e : Entry α} (h : e.IsIdle) (d : Document α) : d.add e = d := by
  cases e with
  | title value => exact absurd h id
  | ignored => rfl
  | heading name => exact absurd h id
  | unrecognized line => rfl
  | task line outcome =>
      cases outcome with
      | error note => rfl
      | ok task => exact absurd h id

/-- An entry leaves one note at most, and what comes after it has the notes that it has after a
heading or before the first one; an idle entry makes no difference to that. -/
theorem exists_entryNotes_cons (inSection : Bool) (e : Entry α) :
    ∃ (own : List Note) (next : Bool), own.length ≤ 1 ∧ (e.IsIdle → next = inSection) ∧
      ∀ es, entryNotes inSection (e :: es) = own ++ entryNotes next es := by
  cases e with
  | title value =>
      refine ⟨[], inSection, by simp, fun _ => rfl, fun es => ?_⟩
      cases inSection <;> rfl
  | ignored =>
      refine ⟨[], inSection, by simp, fun _ => rfl, fun es => ?_⟩
      cases inSection <;> rfl
  | heading name => exact ⟨[], true, by simp, fun h => absurd h id, fun _ => rfl⟩
  | unrecognized line =>
      refine ⟨[.unrecognizedLine line], inSection, by simp, fun _ => rfl, fun es => ?_⟩
      cases inSection <;> rfl
  | task line outcome =>
      cases inSection with
      | false => exact ⟨[.taskOutsideSection line], false, by simp, fun _ => rfl, fun _ => rfl⟩
      | true =>
          cases outcome with
          | error note => exact ⟨[note], true, by simp, fun _ => rfl, fun _ => rfl⟩
          | ok task => exact ⟨[], true, by simp, fun _ => rfl, fun _ => rfl⟩

/-- The notes on entries depend on those before them by whether a heading is among these. -/
theorem exists_entryNotes_append (inSection : Bool) (es : List (Entry α)) :
    ∃ next : Bool, ∀ fs,
      entryNotes inSection (es ++ fs) = entryNotes inSection es ++ entryNotes next fs := by
  induction es generalizing inSection with
  | nil => exact ⟨inSection, fun fs => by rw [List.nil_append, entryNotes, List.nil_append]⟩
  | cons e es ih =>
      obtain ⟨own, between, -, -, hown⟩ := exists_entryNotes_cons inSection e
      obtain ⟨next, hnext⟩ := ih between
      refine ⟨next, fun fs => ?_⟩
      rw [List.cons_append, hown, hown, hnext, List.append_assoc]

end Idle

/-! ## Which lines are skipped -/

section Lines

variable {α : Type} [Measure α] {directives : List Text}

/-- The task that begins at a moment and has the duration that the parts of its line name. -/
def Task.ofStart (label : Text) (start : Instant) (identifier : Text) (rest : List Text) : Task α :=
  let duration := Duration.read (rest.headD defaultDuration) identifier
  ⟨label, start, duration.days, duration.milestone⟩

/-- The lines that are skipped: those that are blank, that are not recognized or begin with a
directive to be passed over, and those of tasks with fewer than two parts, without a readable date,
or with an end beyond the calendar. -/
inductive IsSkipped (α : Type) [Measure α] (directives : List Text) (l : Text) : Prop
  | blank (h : isAllBlank l = true)
  | unrecognized (h : Line.classify directives (trim l) = none)
  | ignored {directive : Text} (h : Line.classify directives (trim l) = some (.ignored directive))
  | incomplete {label : Text} {parts : List Text}
      (h : Line.classify directives (trim l) = some (.task label parts)) (hparts : parts.length < 2)
  | undated {label identifier date : Text} {rest : List Text}
      (h : Line.classify directives (trim l) = some (.task label (identifier :: date :: rest)))
      (hdate : Calendar.instant? date = none)
  | beyondCalendar {label identifier date : Text} {rest : List Text} {start : Instant}
      (h : Line.classify directives (trim l) = some (.task label (identifier :: date :: rest)))
      (hdate : Calendar.instant? date = some start)
      (hfinish : (Task.ofStart label start identifier rest : Task α).finish? = none)

theorem Task.ofParts_of_date {label identifier date : Text} {rest : List Text} {start : Instant}
    (hdate : Calendar.instant? date = some start) :
    (Task.ofParts label (identifier :: date :: rest) : Except Note (Task α))
      = match (Task.ofStart label start identifier rest : Task α).finish? with
        | none => .error (.taskBeyondCalendar label)
        | some _ => .ok (Task.ofStart label start identifier rest) := by
  rw [Task.ofParts, hdate]
  rfl

/-- A line with content is skipped exactly if its entry is idle. -/
theorem isSkipped_iff {l : Text} (hl : isAllBlank l = false) :
    IsSkipped α directives l ↔ (Entry.ofLine directives (trim l) : Entry α).IsIdle := by
  constructor
  · intro h
    cases h with
    | blank h => exact absurd (h.symm.trans hl) (by simp)
    | unrecognized h => rw [Entry.ofLine, h]; trivial
    | ignored h => rw [Entry.ofLine, h]; trivial
    | @incomplete label parts h hparts =>
        rw [Entry.ofLine, h]
        rcases parts with _ | ⟨identifier, _ | ⟨date, rest⟩⟩
        · trivial
        · trivial
        · rw [List.length_cons, List.length_cons] at hparts
          omega
    | undated h hdate =>
        rw [Entry.ofLine, h]
        dsimp only
        rw [Task.ofParts, hdate]
        trivial
    | beyondCalendar h hdate hfinish =>
        rw [Entry.ofLine, h]
        dsimp only
        rw [Task.ofParts_of_date hdate, hfinish]
        trivial
  · intro h
    rw [Entry.ofLine] at h
    split at h
    · next hc => exact .unrecognized hc
    · exact absurd h id
    · next hc => exact .ignored hc
    · exact absurd h id
    · next label parts hc =>
        rcases parts with _ | ⟨identifier, _ | ⟨date, rest⟩⟩
        · exact .incomplete hc (by simp)
        · exact .incomplete hc (by simp)
        · cases hdate : Calendar.instant? date with
          | none => exact .undated hc hdate
          | some start =>
              rw [Task.ofParts_of_date hdate] at h
              split at h
              · next hfinish => exact .beyondCalendar hc hdate hfinish
              · exact absurd h id

/-- The entries of a line that is skipped: none, or a single one, which is idle. -/
theorem IsSkipped.entries_cases {l : Text} (h : IsSkipped α directives l)
    (hl : Within (isLineBreak · = false) l) :
    (entries directives l : List (Entry α)) = [] ∨
      ∃ e : Entry α, entries directives l = [e] ∧ e.IsIdle := by
  rw [entries, contentLines_last hl, content?]
  cases hb : isAllBlank l with
  | true => exact Or.inl rfl
  | false => exact Or.inr ⟨_, rfl, (isSkipped_iff hb).1 h⟩

/-! ## A skipped line within a text -/

/-- **Skipped lines change nothing.**  Reading never fails, and wherever a line that is skipped
stands, the text gives the document that it gives without the line.  The line leaves one note at
most, and the notes on the lines before and after it are the same. -/
theorem Document.read_append_skipped {l : Text} (hl : Within (isLineBreak · = false) l)
    (h : IsSkipped α directives l) (a b : Text) :
    (Document.read directives (a ++ '\n' :: (l ++ '\n' :: b)) : Document α)
        = Document.read directives (a ++ '\n' :: b) ∧
      ∃ before own after : List Note, own.length ≤ 1 ∧
        entryNotes false (entries directives (a ++ '\n' :: b) : List (Entry α))
          = before ++ after ∧
        entryNotes false (entries directives (a ++ '\n' :: (l ++ '\n' :: b)) : List (Entry α))
          = before ++ own ++ after := by
  obtain ⟨inSection, hnotes⟩ :=
    exists_entryNotes_append false (entries directives a : List (Entry α))
  rw [Document.read_append_break, Document.read_append_break, entries_append_break a,
    entries_append_break a, hnotes, hnotes, entries_append_break, List.foldl_append]
  rcases h.entries_cases hl with hnone | ⟨e, he, hidle⟩
  · rw [hnone]
    exact ⟨rfl, _, [], _, by simp, rfl, by rw [List.append_nil]; rfl⟩
  · obtain ⟨own, next, hlength, hnext, hown⟩ := exists_entryNotes_cons inSection e
    rw [he, List.foldl_cons, List.foldl_nil, Document.add_of_isIdle hidle, List.singleton_append,
      hown, hnext hidle]
    exact ⟨rfl, _, own, _, hlength, rfl, (List.append_assoc _ _ _).symm⟩

/-- A line for a task that takes more days than any double can count. -/
def endlessLine : Text :=
  "\tWait :w1, 2025-01-04, ".toList ++ (List.replicate 400 '9' ++ "d ".toList)

theorem Document.read_append_skipped_endlessLine :
    Within (isLineBreak · = false) endlessLine ∧ IsSkipped Float standardDirectives endlessLine ∧
      (Document.read standardDirectives
          (firstPart ++ '\n' :: (endlessLine ++ '\n' :: secondPart)) : Document Float)
        = Document.read standardDirectives (firstPart ++ '\n' :: secondPart) ∧
      ∃ before own after : List Note, own.length ≤ 1 ∧
        entryNotes false (entries standardDirectives (firstPart ++ '\n' :: secondPart) :
            List (Entry Float))
          = before ++ after ∧
        entryNotes false (entries standardDirectives
            (firstPart ++ '\n' :: (endlessLine ++ '\n' :: secondPart)) : List (Entry Float))
          = before ++ own ++ after := by
  have hline : Within (isLineBreak · = false) endlessLine := by decide +kernel
  have hclassify : Line.classify standardDirectives (trim endlessLine)
      = some (.task "Wait".toList
          ["w1".toList, "2025-01-04".toList, List.replicate 400 '9' ++ ['d']]) := by
    decide +kernel
  have hdate : Calendar.instant? "2025-01-04".toList
      = some (.midnight ((Date.of? 2025 1 4).get (by decide))) := by
    decide +kernel
  have hskipped : IsSkipped Float standardDirectives endlessLine :=
    .beyondCalendar hclassify hdate (by decide +kernel)
  exact ⟨hline, hskipped, Document.read_append_skipped hline hskipped firstPart secondPart⟩

end Lines

end Prepress.Timeline
