/-
# Written timelines

How sections and their tasks are written in a timeline: a line for the name of a section, and a line
for the label, the identifier, the date and the duration of a task, with spacing and blank lines at
will and line ends of three kinds (`IsWritten`).  Reading undoes writing:

* `classify_heading` : the line of a name is taken for a heading and for nothing else, as that of a
  label is taken for a task;
* `exists_entry_of_isLine` : a line gives what it is written for;
* `gather_of_gives` : every task goes to the section that it is written in;
* `read_of_isWritten` : the sections and the tasks of a written timeline are read back.
-/
import Prepress.Proofs.Timeline.Reading
import Prepress.Proofs.Timeline.TaskLine
import Prepress.Timeline.Options

namespace Prepress.Timeline

open Text

/-! ## Labels and fields -/

/-- A label that can be written: neither its first word nor its beginning is a keyword. -/
structure IsTaskLabel (l : Text) : Prop extends IsContent l where
  colon : ':' ∉ l
  not_title : (firstWord l).map Char.toLower ≠ "title".toList
  not_section : (firstWord l).map Char.toLower ≠ "section".toList
  not_directive : ∀ k ∈ standardDirectives, ¬ k.lower <+: l.lower

instance (l : Text) : Decidable (IsTaskLabel l) :=
  decidable_of_iff (IsContent l ∧ ':' ∉ l ∧ (firstWord l).map Char.toLower ≠ "title".toList ∧
      (firstWord l).map Char.toLower ≠ "section".toList ∧
      ∀ k ∈ standardDirectives, ¬ k.lower <+: l.lower)
    ⟨fun ⟨h₁, h₂, h₃, h₄, h₅⟩ => ⟨h₁, h₂, h₃, h₄, h₅⟩,
      fun ⟨h₁, h₂, h₃, h₄, h₅⟩ => ⟨h₁, h₂, h₃, h₄, h₅⟩⟩

/-- A label that can be written is a label of a task. -/
theorem IsTaskLabel.isLabel {l : Text} (h : IsTaskLabel l) : IsLabel standardDirectives l where
  trimmed := h.trimmed
  ne_nil := h.ne_nil
  colon := h.colon
  within_line := h.within_line
  not_title := argument?_eq_none_of_firstWord (by decide) h.not_title
  not_ignored := ignored?_eq_none_iff.2 h.not_directive
  not_heading := argument?_eq_none_of_firstWord (by decide) h.not_section

/-- A text can be written between commas. -/
structure IsField (t : Text) : Prop extends IsContent t where
  comma : ',' ∉ t

instance (t : Text) : Decidable (IsField t) :=
  decidable_of_iff (IsContent t ∧ ',' ∉ t) ⟨fun ⟨h₁, h₂⟩ => ⟨h₁, h₂⟩, fun ⟨h₁, h₂⟩ => ⟨h₁, h₂⟩⟩

/-- A field is one part, whatever spacing is around it. -/
theorem IsField.parts_eq {t padded : Text} (h : IsField t) (hp : IsPadded t padded) :
    Line.parts padded = [t] := by
  rw [parts_of_not_mem (hp.not_mem (by decide) h.comma), h.content?_eq hp]
  rfl

/-! ## Headings -/

/-- No line that begins with an `s` begins with a directive. -/
theorem ignored?_standard_eq_none (t : Text) :
    Line.ignored? standardDirectives ('s' :: t) = none := by
  rw [ignored?_eq_none_iff]
  intro k hk hp
  have hfirst : ∀ k ∈ standardDirectives, k.lower ≠ [] ∧ k.lower.head? ≠ some 's' := by
    decide +kernel
  have hlower : Text.lower ('s' :: t) = 's' :: lowerAfter ['s'] t := by
    rw [lower, lowerAfter, if_neg (by decide), if_neg (by decide)]
    rfl
  rw [hlower, List.prefix_cons_iff] at hp
  rcases hp with hnil | ⟨r, hr, -⟩
  · exact (hfirst k hk).1 hnil
  · exact (hfirst k hk).2 (by rw [hr]; rfl)

/-- The keyword of a heading and a name with spacing around it are read as a heading. -/
theorem classify_heading {name padded : Text} (hn : trim name = name) (hp : IsPadded name padded) :
    Line.classify standardDirectives ("section ".toList ++ padded) = some (.heading name) := by
  have htitle : Line.argument? "title".toList ("section ".toList ++ padded) = none := by
    rw [argument?_eq_none_iff]
    intro h
    exact absurd (List.cons_prefix_cons.1 h).1 (by decide)
  have hsection : Line.argument? "section".toList ("section ".toList ++ padded) = some name := by
    have htake : ("section ".toList ++ padded).take 8 = "section ".toList := rfl
    have hdrop : ("section ".toList ++ padded).drop 8 = padded := rfl
    show (if (("section ".toList ++ padded).take 8).map Char.toLower = "section ".toList then
      some (trim (("section ".toList ++ padded).drop 8)) else none) = some name
    rw [htake, hdrop, if_pos (by decide), hp.trim_eq, hn]
  have hignored : Line.ignored? standardDirectives ("section ".toList ++ padded) = none :=
    ignored?_standard_eq_none ("ection ".toList ++ padded)
  rw [Line.classify, htitle, hignored, hsection]

/-! ## Sources -/

/-- What a task is written with, and the moment that its date names. -/
structure TaskSource where
  label : Text
  identifier : Text
  date : Text
  duration : Text
  start : Instant

/-- What a section is written with. -/
structure SectionSource where
  name : Text
  tasks : List TaskSource

/-- What a line of a timeline is written for. -/
inductive SourceLine where
  | heading (name : Text)
  | task (s : TaskSource)

/-- The lines of a section in order. -/
def SectionSource.lines (s : SectionSource) : List SourceLine :=
  .heading s.name :: s.tasks.map .task

/-- How a line is written, with spacing around everything that is on it. -/
inductive SourceLine.IsLine : SourceLine → Text → Prop
  | heading {name a padded : Text} :
      IsSpacing a → IsPadded name padded →
      IsLine (.heading name) (a ++ ("section ".toList ++ padded))
  | task {s : TaskSource} {label identifier date duration : Text} :
      IsPadded s.label label → IsPadded s.identifier identifier → IsPadded s.date date →
      IsPadded s.duration duration →
      IsLine (.task s) (label ++ ':' :: (identifier ++ ',' :: (date ++ ',' :: duration)))

/-- Sections are written in a text, with blank lines anywhere. -/
def IsWritten (sources : List SectionSource) (text : Text) : Prop :=
  ∃ ls, LaidOut SourceLine.IsLine (sources.flatMap (·.lines)) ls ∧ AreLinesOf ls text

section Documents

variable (α : Type) [Measure α]

/-- The task that is written. -/
def TaskSource.toTask (s : TaskSource) : Task α :=
  let duration : Duration α := Duration.read s.duration s.identifier
  ⟨s.label, s.start, duration.days, duration.milestone⟩

/-- The section that is written. -/
def SectionSource.toSection (s : SectionSource) : Section α := ⟨s.name, s.tasks.map (·.toTask α)⟩

/-- A task can be written: its date is a date, and the calendar reaches its end. -/
structure TaskSource.IsWellFormed (s : TaskSource) : Prop where
  label : IsTaskLabel s.label
  identifier : IsField s.identifier
  date : IsField s.date
  duration : IsField s.duration
  start : Calendar.instant? s.date = some s.start
  finish : (s.toTask α).finish?.isSome = true

instance (s : TaskSource) : Decidable (s.IsWellFormed α) :=
  decidable_of_iff (IsTaskLabel s.label ∧ IsField s.identifier ∧ IsField s.date ∧
      IsField s.duration ∧ Calendar.instant? s.date = some s.start ∧
      (s.toTask α).finish?.isSome = true)
    ⟨fun ⟨h₁, h₂, h₃, h₄, h₅, h₆⟩ => ⟨h₁, h₂, h₃, h₄, h₅, h₆⟩,
      fun ⟨h₁, h₂, h₃, h₄, h₅, h₆⟩ => ⟨h₁, h₂, h₃, h₄, h₅, h₆⟩⟩

/-- A section can be written. -/
structure SectionSource.IsWellFormed (s : SectionSource) : Prop where
  name : IsContent s.name
  tasks : ∀ t ∈ s.tasks, t.IsWellFormed α

instance (s : SectionSource) : Decidable (s.IsWellFormed α) :=
  decidable_of_iff (IsContent s.name ∧ ∀ t ∈ s.tasks, t.IsWellFormed α)
    ⟨fun ⟨h₁, h₂⟩ => ⟨h₁, h₂⟩, fun ⟨h₁, h₂⟩ => ⟨h₁, h₂⟩⟩

/-- What is on a line can be written. -/
def SourceLine.IsWellFormed : SourceLine → Prop
  | .heading name => IsContent name
  | .task s => s.IsWellFormed α

theorem SectionSource.IsWellFormed.lines {s : SectionSource} (h : s.IsWellFormed α) :
    ∀ x ∈ s.lines, x.IsWellFormed α := by
  refine List.forall_mem_cons.2 ⟨h.name, ?_⟩
  intro x hx
  obtain ⟨t, ht, rfl⟩ := List.mem_map.1 hx
  exact h.tasks t ht

/-- What a line gives when it is read. -/
inductive SourceLine.Gives : SourceLine → Entry α → Prop
  | heading (name : Text) : Gives (.heading name) (.heading name)
  | task (s : TaskSource) (line : Text) : Gives (.task s) (.task line (.ok (s.toTask α)))

end Documents

variable {α : Type} [Measure α]

/-! ## Lines -/

/-- The parts of a written task describe it. -/
theorem TaskSource.IsWellFormed.ofParts_eq {s : TaskSource} (h : s.IsWellFormed α) :
    Task.ofParts s.label [s.identifier, s.date, s.duration] = .ok (s.toTask α) :=
  Task.ofParts_eq_ok h.start rfl h.finish

/-- The content of the line of a heading. -/
theorem entries_of_heading {name a padded : Text} (hn : IsContent name) (ha : IsSpacing a)
    (hp : IsPadded name padded) :
    (contentLines (a ++ ("section ".toList ++ padded))).map (Entry.ofLine standardDirectives)
      = [(.heading name : Entry α)] := by
  obtain ⟨b, d, hb, hd, rfl⟩ := hp
  have hcontent : IsContent ("section".toList ++ ' ' :: b ++ name) :=
    IsContent.between ⟨by decide +kernel, by decide, by decide⟩ hn
      (within_cons.2 ⟨by decide, hb.within_line⟩)
  have hpadded : IsPadded ("section".toList ++ ' ' :: b ++ name)
      (a ++ ("section ".toList ++ (b ++ name ++ d))) := by
    refine ⟨a, d, ha, hd, ?_⟩
    rw [show "section ".toList = "section".toList ++ [' '] from rfl]
    simp only [List.append_assoc, List.cons_append, List.nil_append]
  have hline : "section".toList ++ ' ' :: b ++ name = "section ".toList ++ (b ++ name) := by
    rw [List.append_assoc]
    rfl
  rw [hcontent.contentLines_eq hpadded, List.map_singleton, Entry.ofLine, hline,
    classify_heading hn.trimmed (isPadded_append_left hb name)]

/-- The content of the line of a task. -/
theorem exists_entry_of_task {s : TaskSource} (h : s.IsWellFormed α)
    {label identifier date duration : Text} (hlabel : IsPadded s.label label)
    (hidentifier : IsPadded s.identifier identifier) (hdate : IsPadded s.date date)
    (hduration : IsPadded s.duration duration) :
    ∃ line, (contentLines (label ++ ':' :: (identifier ++ ',' :: (date ++ ',' :: duration)))).map
      (Entry.ofLine standardDirectives) = [(.task line (.ok (s.toTask α)) : Entry α)] := by
  have hwithin : Within (isLineBreak · = false) (identifier ++ ',' :: date) :=
    Within.append (hidentifier.within_line h.identifier.within_line)
      (within_cons.2 ⟨by decide, hdate.within_line h.date.within_line⟩)
  obtain ⟨a, b, ha, hb, rfl⟩ := hlabel
  obtain ⟨c, d, hc, hd, rfl⟩ := hduration
  -- the content reaches from the label to the duration
  obtain ⟨m, hm⟩ : ∃ m, m = b ++ ':' :: (identifier ++ ',' :: date) ++ ',' :: c := ⟨_, rfl⟩
  have hmiddle : Within (isLineBreak · = false) m := by
    rw [hm]
    exact (Within.append hb.within_line (within_cons.2 ⟨by decide, hwithin⟩)).append
      (within_cons.2 ⟨by decide, hc.within_line⟩)
  have hcontent : IsContent (s.label ++ m ++ s.duration) :=
    IsContent.between h.label.toIsContent h.duration.toIsContent hmiddle
  have hpadded : IsPadded (s.label ++ m ++ s.duration)
      (a ++ s.label ++ b ++
        ':' :: (identifier ++ ',' :: (date ++ ',' :: (c ++ s.duration ++ d)))) := by
    refine ⟨a, d, ha, hd, ?_⟩
    simp only [hm, List.append_assoc, List.cons_append]
  have hline : s.label ++ m ++ s.duration
      = s.label ++ (b ++ ':' :: (identifier ++ ',' :: (date ++ ',' :: (c ++ s.duration)))) := by
    simp only [hm, List.append_assoc, List.cons_append]
  have hparts : Line.parts (identifier ++ ',' :: (date ++ ',' :: (c ++ s.duration)))
      = [s.identifier, s.date, s.duration] := by
    rw [parts_append_comma, parts_append_comma, h.identifier.parts_eq hidentifier,
      h.date.parts_eq hdate, h.duration.parts_eq (isPadded_append_left hc _)]
    rfl
  have hclassify : Line.classify standardDirectives (s.label ++ m ++ s.duration)
      = some (.task s.label [s.identifier, s.date, s.duration]) := by
    rw [hline, classify_label isKeyword_standardDirectives h.label.isLabel hb, hparts]
  refine ⟨s.label ++ m ++ s.duration, ?_⟩
  rw [hcontent.contentLines_eq hpadded, List.map_singleton, Entry.ofLine, hclassify]
  dsimp only
  rw [h.ofParts_eq]

/-- A line gives what it is written for. -/
theorem exists_entry_of_isLine {x : SourceLine} (hx : x.IsWellFormed α) {l : Text}
    (h : x.IsLine l) :
    ∃ e : Entry α, (contentLines l).map (Entry.ofLine standardDirectives) = [e] ∧ x.Gives α e := by
  cases h with
  | heading ha hp => exact ⟨_, entries_of_heading hx ha hp, .heading _⟩
  | task hlabel hidentifier hdate hduration =>
      obtain ⟨line, hline⟩ := exists_entry_of_task hx hlabel hidentifier hdate hduration
      exact ⟨_, hline, .task _ line⟩

/-- The lines of a text give one entry each for what they are written for, in order. -/
theorem entries_of_isWritten {sources : List SectionSource}
    (hs : ∀ s ∈ sources, s.IsWellFormed α) {text : Text} (h : IsWritten sources text) :
    List.Forall₂ (SourceLine.Gives α) (sources.flatMap (·.lines))
      (entries standardDirectives text) := by
  obtain ⟨ls, hlaid, htext⟩ := h
  rw [entries, htext.contentLines_eq, List.map_flatMap]
  refine hlaid.forall₂ ?_ ?_
  · intro l hl
    rw [contentLines_of_isSpacing hl]
    rfl
  · intro x hx l hl
    obtain ⟨s, hmem, hxs⟩ := List.mem_flatMap.1 hx
    exact exists_entry_of_isLine ((hs s hmem).lines α x hxs) hl

/-! ## Documents -/

/-- No line of a section gives a title. -/
theorem lastTitle_of_gives {xs : List SourceLine} {es : List (Entry α)}
    (h : List.Forall₂ (SourceLine.Gives α) xs es) : lastTitle es = none := by
  induction h with
  | nil => rfl
  | cons hx _ ih =>
      unfold lastTitle
      rw [ih]
      cases hx <;> rfl

/-- The tasks of a section come before what follows them. -/
theorem gather_of_gives_tasks {tasks : List TaskSource} {xs : List SourceLine}
    {es : List (Entry α)}
    (h : List.Forall₂ (SourceLine.Gives α) (tasks.map SourceLine.task ++ xs) es) :
    ∃ rest, List.Forall₂ (SourceLine.Gives α) xs rest ∧
      gather es = (tasks.map (·.toTask α) ++ (gather rest).1, (gather rest).2) := by
  induction tasks generalizing es with
  | nil => exact ⟨es, h, rfl⟩
  | cons t tasks ih =>
      cases h with
      | cons ht hes =>
          obtain ⟨rest, hrest, hgather⟩ := ih hes
          refine ⟨rest, hrest, ?_⟩
          cases ht with
          | task _ line =>
              rw [gather, hgather]
              rfl

/-- Every task goes to the section that it is written in. -/
theorem gather_of_gives {sources : List SectionSource} {es : List (Entry α)}
    (h : List.Forall₂ (SourceLine.Gives α) (sources.flatMap (·.lines)) es) :
    gather es = ([], sources.map (·.toSection α)) := by
  induction sources generalizing es with
  | nil =>
      cases h
      rfl
  | cons s sources ih =>
      cases h with
      | cons hname hes =>
          obtain ⟨rest, hrest, hgather⟩ := gather_of_gives_tasks hes
          cases hname with
          | heading _ =>
              rw [gather, hgather, ih hrest, List.append_nil]
              rfl

/-- **Reading undoes writing.**  The sections and the tasks of a written timeline are read back, in
order, whatever the spacing, the blank lines and the line ends are. -/
theorem read_of_isWritten {sources : List SectionSource}
    (hs : ∀ s ∈ sources, s.IsWellFormed α) {text : Text} (h : IsWritten sources text) :
    Document.read (Options.standard : Options α).ignoredDirectives text
      = (⟨none, sources.map (·.toSection α)⟩ : Document α) := by
  have hentries := entries_of_isWritten hs h
  show Document.ofEntries (entries standardDirectives text) = _
  rw [Document.ofEntries, lastTitle_of_gives hentries, gather_of_gives hentries]

/-- Two sections: a task, a milestone, and a section without tasks. -/
def releasePlan : List SectionSource :=
  [⟨"Plan".toList,
      [⟨"Titles".toList, "t1".toList, "2025-01-06".toList, "5d".toList,
          .midnight ((Date.of? 2025 1 6).get (by decide))⟩,
        ⟨"Ship".toList, "m1".toList, "3 Feb 2025".toList, "1d".toList,
          .midnight ((Date.of? 2025 2 3).get (by decide))⟩]⟩,
    ⟨"Later".toList, []⟩]

/-- They are written with spacing, a blank line and line ends of all kinds. -/
def releaseText : Text :=
  "\tsection  Plan\r Titles\t:t1 ,2025-01-06,\t5d \r\n".toList
    ++ " \nShip: m1, 3 Feb 2025,1d\nsection Later".toList

theorem read_of_isWritten_releasePlan :
    (∀ s ∈ releasePlan, s.IsWellFormed Float) ∧ IsWritten releasePlan releaseText ∧
      Document.read (Options.standard : Options Float).ignoredDirectives releaseText
        = (⟨none, releasePlan.map (·.toSection Float)⟩ : Document Float) := by
  have hplan : ∀ s ∈ releasePlan, s.IsWellFormed Float := by decide +kernel
  have hspace : IsSpacing [' '] := by decide
  have htab : IsSpacing ['\t'] := by decide
  have hwritten : IsWritten releasePlan releaseText := by
    refine ⟨["\tsection  Plan".toList, " Titles\t:t1 ,2025-01-06,\t5d ".toList, [' '],
      "Ship: m1, 3 Feb 2025,1d".toList, "section Later".toList], ?_, ?_⟩
    · refine .line (.heading htab (isPadded_append_left hspace _)) ?_
      refine .line (.task (isPadded_append hspace htab _) (isPadded_append within_nil hspace _)
        (isPadded_self _) (isPadded_append htab hspace _)) (.blank hspace ?_)
      refine .line (.task (isPadded_self _) (isPadded_append_left hspace _)
        (isPadded_append_left hspace _) (isPadded_self _)) ?_
      exact .line (.heading within_nil (isPadded_self _)) .nil
    · refine .line (e := ['\r']) (by decide) (.line (e := ['\r', '\n']) (by decide) ?_)
      exact .line (e := ['\n']) (by decide) (.line (e := ['\n']) (by decide) (.last _))
  exact ⟨hplan, hwritten, read_of_isWritten hplan hwritten⟩

end Prepress.Timeline
